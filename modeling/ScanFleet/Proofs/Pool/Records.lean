import ScanFleet.Proofs.Pool.Merge
import ScanFleet.Proofs.Store.Rows

/-! The records of the pool.  In a sound pool a mark, a release or a selection changes the record of
one username, as a write changes its row in a store; and after a merge the records are the rows. -/

namespace ScanFleet.Pool

variable {p : Pool} {u : String} {i : Nat} {a : Account}

theorem mem_slots_of_mem (h : p.Sound) (ha : a ∈ p.accounts) :
    ⟨a, p.isInUse a.username⟩ ∈ p.slots := by
  obtain ⟨i, hi⟩ := List.mem_iff_getElem?.mp ha
  exact mem_slots_iff.mpr ⟨i, hi, h.isInUse hi⟩

theorem mem_of_mem_slots {s : Slot} (hs : s ∈ p.slots) : s.account ∈ p.accounts := by
  obtain ⟨i, ha, -⟩ := mem_slots_iff.mp hs
  exact List.mem_of_getElem? ha

theorem exists?_of_mem (ha : a ∈ p.accounts) : p.exists? a.username :=
  exists?_iff.mpr (List.mem_map_of_mem ha)

theorem Sound.eq_of_username (h : p.Sound) {b : Account} (ha : a ∈ p.accounts)
    (hb : b ∈ p.accounts) (he : a.username = b.username) : a = b :=
  Keyed.eq_of_key (k := Account.username) h.distinct ha hb he

theorem find?_eq_some_iff (h : p.Sound) :
    p.find? u = some a ↔ a ∈ p.accounts ∧ a.username = u := by
  constructor
  · intro hf
    obtain ⟨i, hi, ha⟩ := Option.bind_eq_some_iff.mp hf
    obtain ⟨b, hb, hu⟩ := username_of_position hi
    rw [hb] at ha
    cases ha
    exact ⟨List.mem_of_getElem? hb, hu⟩
  · rintro ⟨ha, rfl⟩
    obtain ⟨i, hi⟩ := List.mem_iff_getElem?.mp ha
    rw [find?, h.position hi, Option.bind_some, hi]

/-! ### Changes of one record -/

/-- A change at the position of an account is one of the record of its username. -/
theorem modify_eq_amend (h : p.Sound) (hi : p.accounts[i]? = some a) (k : Account → Account) :
    p.accounts.modify i k = amend a.username k p.accounts := by
  refine List.ext_getElem? fun j => ?_
  rw [List.getElem?_modify, amend, List.getElem?_map]
  cases hj : p.accounts[j]? with
  | none => rfl
  | some b =>
    have hij : i = j ↔ b.username = a.username := by
      refine ⟨fun he => ?_, fun he => ?_⟩
      · rw [he, hj] at hi
        rw [Option.some.inj hi]
      · have hp := h.position hi
        rw [← he, h.position hj] at hp
        exact (Option.some.inj hp).symm
    by_cases he : i = j
    · simp [he, hij.mp he]
    · simp [he, mt hij.mpr he]

theorem accounts_modifyAccount (h : p.Sound) (u : String) (k : Account → Account) :
    (p.modifyAccount u k).accounts = amend u k p.accounts := by
  unfold modifyAccount
  split
  next i hi =>
    obtain ⟨a, ha, rfl⟩ := username_of_position hi
    exact modify_eq_amend h ha k
  next hnone =>
    refine (amend_eq_self fun hm => ?_).symm
    have hex := exists?_iff.mpr hm
    rw [exists?, hnone] at hex
    cases hex

theorem accounts_release (h : p.Sound) (u : String) (now : Instant) :
    (p.release u now).accounts = amend u (·.giveBack now) p.accounts := by
  rw [← accounts_modifyAccount h]
  unfold release modifyAccount
  split <;> rfl

/-- A selected account could be selected, and its record is the one that changes. -/
theorem allocate_some (h : p.Sound) {accept : Account → Bool} {now : Instant} {c : Credentials}
    (hc : (p.allocate accept now).1 = some c) :
    ∃ a ∈ p.accounts, a.credentials = c ∧ p.isInUse a.username = false ∧ a.isUsable now ∧
      accept a ∧ a.lastReleased ≠ none ∧
      (p.allocate accept now).2.accounts = amend a.username (·.select now) p.accounts := by
  unfold allocate at hc ⊢
  split at hc
  next => cases hc
  next i t ho =>
    obtain ⟨a, ha, hflag, husable, haccept, ht⟩ := mem_candidates_iff.mp (oldest_mem ho)
    rw [ha] at hc
    refine ⟨a, List.mem_of_getElem? ha, Option.some.inj hc, ?_, husable, haccept, by simp [ht],
      modify_eq_amend h ha _⟩
    rw [isInUse, h.position ha]
    exact hflag

theorem oldest_isSome {l : List (Nat × Instant)} (h : l ≠ []) : (oldest l).isSome := by
  cases l with
  | nil => exact absurd rfl h
  | cons c l =>
    simp only [oldest]
    split
    · rfl
    · split <;> rfl

/-- Whoever asks for one idle account gets it exactly if it is accepted, may be used and has a time
of release. -/
theorem allocate_only_iff (h : p.Sound) (ha : a ∈ p.accounts) (hidle : p.isInUse a.username = false)
    (accept : Account → Bool) (now : Instant) :
    (p.allocate (fun b => accept b && b.username = a.username) now).1 = some a.credentials ↔
      a.isUsable now ∧ accept a ∧ a.lastReleased ≠ none := by
  generalize hone : (fun b : Account => accept b && decide (b.username = a.username)) = one
  have only : ∀ b ∈ p.accounts, one b → b = a := fun b hb hacc => by
    subst hone
    exact h.eq_of_username hb ha (of_decide_eq_true (Bool.and_eq_true_iff.mp hacc).2)
  have self : one a = accept a := by simp [← hone]
  constructor
  · intro hc
    obtain ⟨b, hb, -, -, husable, hacc, ht, -⟩ := allocate_some h hc
    obtain rfl := only b hb hacc
    exact ⟨husable, self ▸ hacc, ht⟩
  · rintro ⟨husable, hacc, ht⟩
    obtain ⟨i, hi⟩ := List.mem_iff_getElem?.mp ha
    obtain ⟨t, ht⟩ := Option.ne_none_iff_exists'.mp ht
    rw [isInUse, h.position hi] at hidle
    have hmem : (i, t) ∈ p.candidates one now :=
      mem_candidates_iff.mpr ⟨a, hi, hidle, husable, self.trans hacc, ht⟩
    obtain ⟨best, hbest⟩ := Option.isSome_iff_exists.mp (oldest_isSome (List.ne_nil_of_mem hmem))
    obtain ⟨b, hb, -, -, hone, -⟩ := mem_candidates_iff.mp (oldest_mem hbest)
    obtain rfl := only b (List.mem_of_getElem? hb) hone
    simp [allocate, hbest, hb]

/-! ### Merges -/

theorem row?_eq_some_iff {rows : List Account} (hr : (rows.map (·.username)).Nodup) :
    row? rows u = some a ↔ a ∈ rows ∧ a.username = u := by
  have hrev : (rows.reverse.map (·.username)).Nodup := by
    rw [List.map_reverse]
    exact List.nodup_reverse.mpr hr
  rw [row?, Keyed.find?_eq_some_iff hrev, List.mem_reverse]

/-- After a merge the record of a username is its row. -/
theorem mem_accounts_merge_iff (h : p.Sound) {rows : List Account} :
    a ∈ (p.merge rows).2.accounts ↔ row? rows a.username = some a := by
  have hm := h.merge rows
  have hmerge := slot?_merge h rows a.username
  constructor
  · intro ha
    have hslot := (Keyed.find?_eq_some_iff (k := fun s : Slot => s.account.username)
      (by rw [usernames_slots hm.aligned]; exact hm.distinct)).mpr ⟨mem_slots_of_mem hm ha, rfl⟩
    rw [slot?, hslot] at hmerge
    obtain ⟨b, hb, he⟩ := Option.map_eq_some_iff.mp hmerge.symm
    have hba : b = a := congrArg Slot.account he
    rw [hb, hba]
  · intro ha
    rw [ha] at hmerge
    exact mem_of_mem_slots (List.mem_of_find?_eq_some hmerge)

/-- After a merge of rows the records are the rows. -/
theorem mem_accounts_merge (h : p.Sound) {rows : List Account}
    (hr : (rows.map (·.username)).Nodup) : a ∈ (p.merge rows).2.accounts ↔ a ∈ rows := by
  rw [mem_accounts_merge_iff h, row?_eq_some_iff hr, and_iff_left rfl]

/-- A merge of the records themselves changes nothing. -/
theorem merge_same (h : p.Sound) {rows : List Account} (hr : (rows.map (·.username)).Nodup)
    (hsame : ∀ a, a ∈ p.accounts ↔ a ∈ rows) : p.merge rows = (⟨0, 0, 0⟩, p) := by
  have hkept : p.slots.filterMap (fun s =>
      (row? rows s.account.username).map fun a => (s, { s with account := a })) =
        p.slots.map fun s => (s, s) := by
    rw [← List.filterMap_eq_map]
    refine List.filterMap_congr fun s hs => ?_
    rw [(row?_eq_some_iff hr).mpr ⟨(hsame _).mp (mem_of_mem_slots hs), rfl⟩]
    rfl
  have hnew : p.newUsernames rows = [] := by
    refine List.eq_nil_iff_forall_not_mem.mpr fun u hu => ?_
    obtain ⟨hmem, hnot⟩ := mem_newUsernames.mp hu
    obtain ⟨a, ha, rfl⟩ := List.mem_map.mp hmem
    rw [exists?_of_mem ((hsame a).mpr ha)] at hnot
    cases hnot
  have haccounts := map_account_slots h.aligned
  have hflags : p.slots.map (·.inUse) = p.inUse :=
    List.ext_getElem (by simp [slots, h.aligned]) fun i _ _ => by simp [slots]
  have hlen : p.slots.length = p.accounts.length := by rw [← haccounts, List.length_map]
  simp [merge, hkept, hnew, Function.comp_def, haccounts, hflags, hlen]

end ScanFleet.Pool
