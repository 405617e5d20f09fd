import ScanFleet.Proofs.Pool.Flags

/-! Merges of rows into the pool.  The accounts of a sound pool and their flags are its slots, and a
merge is described by the slot that each username has after it: that of its row, with the flag that
the username had before. -/

namespace ScanFleet.Pool

variable {p : Pool} {u : String}

/-! ### Slots -/

theorem mem_slots_iff {s : Slot} :
    s ∈ p.slots ↔ ∃ i : Nat, p.accounts[i]? = some s.account ∧ p.inUse[i]? = some s.inUse := by
  simp only [slots, List.mem_iff_getElem?, List.getElem?_zipWith_eq_some]
  constructor
  · rintro ⟨i, a, b, ha, hb, rfl⟩
    exact ⟨i, ha, hb⟩
  · rintro ⟨i, ha, hb⟩
    exact ⟨i, s.account, s.inUse, ha, hb, rfl⟩

def slot? (p : Pool) (u : String) : Option Slot := p.slots.find? (·.account.username = u)

theorem username_of_slot? {s : Slot} (h : p.slot? u = some s) : s.account.username = u :=
  Keyed.key_of_find? (k := fun s : Slot => s.account.username) h

theorem map_account_slots (h : p.inUse.length = p.accounts.length) :
    p.slots.map (·.account) = p.accounts :=
  List.ext_getElem (by simp [slots, h]) fun i _ _ => by simp [slots]

theorem usernames_slots (h : p.inUse.length = p.accounts.length) :
    p.slots.map (·.account.username) = p.usernames := by
  rw [usernames, ← map_account_slots h, List.map_map]
  rfl

namespace Sound

variable (h : p.Sound)
include h

theorem isInUse_of_mem {s : Slot} (hs : s ∈ p.slots) : p.isInUse s.account.username = s.inUse := by
  obtain ⟨i, ha, hb⟩ := mem_slots_iff.mp hs
  have hflag := h.isInUse ha
  rw [hb] at hflag
  exact (Option.some.inj hflag).symm

theorem isSome_slot? (u : String) : (p.slot? u).isSome = p.exists? u := by
  rw [Bool.eq_iff_iff, exists?_iff, ← usernames_slots h.aligned]
  exact Keyed.isSome_find?_iff (k := fun s : Slot => s.account.username)

theorem isInUse_eq (u : String) : p.isInUse u = (p.slot? u).any (·.inUse) := by
  cases hs : p.slot? u with
  | none =>
    have hex := h.isSome_slot? u
    rw [hs] at hex
    exact isInUse_of_not_exists hex.symm
  | some s =>
    rw [← username_of_slot? hs]
    exact h.isInUse_of_mem (List.mem_of_find?_eq_some hs)

end Sound

/-! ### Rows -/

theorem username_of_row? {rows : List Account} {a : Account} (h : row? rows u = some a) :
    a.username = u :=
  Keyed.key_of_find? (k := Account.username) h

theorem row?_isSome_iff {rows : List Account} :
    (row? rows u).isSome ↔ u ∈ rows.map (·.username) := by
  rw [row?, Keyed.isSome_find?_iff (k := Account.username), List.map_reverse, List.mem_reverse]

theorem mem_newUsernames {rows : List Account} :
    u ∈ p.newUsernames rows ↔ u ∈ rows.map (·.username) ∧ p.exists? u = false := by
  simp [newUsernames, List.mem_eraseDups, List.mem_mergeSort]

/-- The slot of an account that stays, with the account as it was loaded. -/
def refreshed (rows : List Account) (s : Slot) : Option Slot :=
  (row? rows s.account.username).map fun a => { s with account := a }

def addedSlot (rows : List Account) (u : String) : Option Slot := (row? rows u).map (⟨·, false⟩)

theorem aligned_merge (p : Pool) (rows : List Account) :
    (p.merge rows).2.inUse.length = (p.merge rows).2.accounts.length := by
  simp [merge]

theorem slots_merge (p : Pool) (rows : List Account) :
    (p.merge rows).2.slots =
      p.slots.filterMap (refreshed rows) ++ (p.newUsernames rows).filterMap (addedSlot rows) := by
  have hadded : List.zipWith Slot.mk ((p.newUsernames rows).filterMap (row? rows))
      (((p.newUsernames rows).filterMap (row? rows)).map fun _ => false) =
        (p.newUsernames rows).filterMap (addedSlot rows) := by
    rw [List.zipWith_map_right, List.zipWith_self, List.map_filterMap]
    rfl
  simp only [merge]
  rw [slots, List.zipWith_append (by simp), hadded, List.zipWith_map, List.zipWith_self,
    List.map_filterMap]
  simp only [Option.map_map]
  rfl

theorem find?_refreshed (rows : List Account) (slots : List Slot) (u : String) :
    (slots.filterMap (refreshed rows)).find? (·.account.username = u) =
      (slots.find? (·.account.username = u)).bind (refreshed rows) := by
  induction slots with
  | nil => rfl
  | cons s slots ih =>
    by_cases hu : s.account.username = u
    · subst hu
      cases hr : row? rows s.account.username with
      | none =>
        have hnone : refreshed rows s = none := by simp [refreshed, hr]
        rw [List.filterMap_cons_none hnone, ih, List.find?_cons_of_pos (by simp), Option.bind_some,
          hnone, Option.bind_eq_none_iff]
        intro x hx
        have hx' := Keyed.key_of_find? (k := fun s : Slot => s.account.username) hx
        simp [refreshed, hx', hr]
      | some a =>
        have hsome : refreshed rows s = some { s with account := a } := by simp [refreshed, hr]
        rw [List.filterMap_cons_some hsome, List.find?_cons_of_pos (by simp [username_of_row? hr]),
          List.find?_cons_of_pos (by simp), Option.bind_some, hsome]
    · rw [List.find?_cons_of_neg (by simpa using hu), ← ih]
      cases hr : row? rows s.account.username with
      | none => rw [List.filterMap_cons_none (by simp [refreshed, hr])]
      | some a =>
        have hsome : refreshed rows s = some { s with account := a } := by simp [refreshed, hr]
        rw [List.filterMap_cons_some hsome,
          List.find?_cons_of_neg (by simpa [username_of_row? hr] using hu)]

theorem find?_added (rows : List Account) (names : List String) (u : String) :
    (names.filterMap (addedSlot rows)).find? (·.account.username = u) =
      if u ∈ names then addedSlot rows u else none := by
  induction names with
  | nil => rfl
  | cons n names ih =>
    cases hr : row? rows n with
    | none =>
      have hnone : addedSlot rows n = none := by simp [addedSlot, hr]
      rw [List.filterMap_cons_none hnone, ih]
      by_cases hu : u = n
      · subst hu
        simp [hnone]
      · simp [hu]
    | some a =>
      have hsome : addedSlot rows n = some ⟨a, false⟩ := by simp [addedSlot, hr]
      have ha := username_of_row? hr
      rw [List.filterMap_cons_some hsome, List.find?_cons]
      by_cases hu : u = n
      · subst hu
        simp [ha, hsome]
      · simp [ha, hu, Ne.symm hu, ih]

/-- After a merge a username has a slot when it has a row, with the account of that row, and with
the flag that it had before. -/
theorem slot?_merge (h : p.Sound) (rows : List Account) (u : String) :
    (p.merge rows).2.slot? u = (row? rows u).map fun a => ⟨a, p.isInUse u⟩ := by
  rw [slot?, slots_merge, List.find?_append, find?_refreshed, find?_added]
  have hex := h.isSome_slot? u
  rw [h.isInUse_eq]
  cases hs : p.slot? u with
  | some s =>
    have hnew : u ∉ p.newUsernames rows := fun hn => by
      simp [(mem_newUsernames.mp hn).2, hs] at hex
    rw [if_neg hnew, Option.or_none]
    have hu := username_of_slot? hs
    rw [slot?] at hs
    simp [hs, refreshed, hu]
  | none =>
    rw [slot?] at hs
    rw [hs, Option.bind_none, Option.none_or, Option.any_none]
    cases hr : row? rows u with
    | none => simp [addedSlot, hr]
    | some a =>
      have hmem : u ∈ rows.map (·.username) := row?_isSome_iff.mp (by simp [hr])
      rw [if_pos (mem_newUsernames.mpr ⟨hmem, by simpa [slot?, hs] using hex.symm⟩), addedSlot, hr]

theorem nodup_eraseDups (l : List String) : l.eraseDups.Nodup := by
  match l with
  | [] => simp
  | u :: l =>
    rw [List.eraseDups_cons, List.nodup_cons]
    exact ⟨by simp [List.mem_eraseDups], nodup_eraseDups _⟩
termination_by l.length
decreasing_by exact Nat.lt_succ_of_le (List.length_filter_le _ l)

theorem usernames_refreshed (rows : List Account) (slots : List Slot) :
    (slots.filterMap (refreshed rows)).map (·.account.username) =
      (slots.map (·.account.username)).filter fun u => (row? rows u).isSome := by
  induction slots with
  | nil => rfl
  | cons s slots ih =>
    cases hr : row? rows s.account.username with
    | none =>
      rw [List.filterMap_cons_none (by simp [refreshed, hr]), ih]
      simp [hr]
    | some a =>
      rw [List.filterMap_cons_some (b := { s with account := a }) (by simp [refreshed, hr])]
      simp [hr, ih, username_of_row? hr]

theorem usernames_added {rows : List Account} {names : List String}
    (h : ∀ u ∈ names, u ∈ rows.map (·.username)) :
    (names.filterMap (addedSlot rows)).map (·.account.username) = names := by
  induction names with
  | nil => rfl
  | cons n names ih =>
    obtain ⟨a, hr⟩ := Option.isSome_iff_exists.mp
      (row?_isSome_iff.mpr (h n List.mem_cons_self))
    rw [List.filterMap_cons_some (b := ⟨a, false⟩) (by simp [addedSlot, hr]), List.map_cons,
      ih fun u hu => h u (List.mem_cons_of_mem n hu), username_of_row? hr]

theorem usernames_merge (h : p.Sound) (rows : List Account) :
    (p.merge rows).2.usernames =
      (p.usernames.filter fun u => (row? rows u).isSome) ++ p.newUsernames rows := by
  rw [← usernames_slots (aligned_merge p rows), slots_merge, List.map_append, usernames_refreshed,
    usernames_added fun u hu => (mem_newUsernames.mp hu).1, usernames_slots h.aligned]

theorem Sound.merge (h : p.Sound) (rows : List Account) : (p.merge rows).2.Sound := by
  refine ⟨aligned_merge p rows, ?_⟩
  rw [usernames_merge h, List.nodup_append]
  refine ⟨List.Nodup.filter _ h.distinct, nodup_eraseDups _, ?_⟩
  rintro u hu _ hv rfl
  have hnot := (mem_newUsernames.mp hv).2
  rw [exists?_iff.mpr (List.mem_of_mem_filter hu)] at hnot
  cases hnot

theorem isInUse_merge (h : p.Sound) (rows : List Account) (u : String) :
    (p.merge rows).2.isInUse u = ((row? rows u).isSome && p.isInUse u) := by
  rw [(h.merge rows).isInUse_eq, slot?_merge h]
  cases row? rows u <;> simp

theorem exists?_merge (h : p.Sound) (rows : List Account) :
    (p.merge rows).2.exists? u ↔ u ∈ rows.map (·.username) := by
  rw [← (h.merge rows).isSome_slot?, slot?_merge h, Option.isSome_map, row?_isSome_iff]

end ScanFleet.Pool
