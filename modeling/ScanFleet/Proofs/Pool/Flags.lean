import ScanFleet.Account.Pool
import ScanFleet.Proofs.Keyed

/-! The flags of the pool.  A pool is sound when it has a flag for each account and no username
twice; then the flag that is looked up under a username is the one at the position of its account.
Marks, selections and releases keep a pool sound, because none of them changes a username or the
number of flags. -/

namespace ScanFleet

theorem Account.username_select (now : Instant) (a : Account) :
    (a.select now).username = a.username := rfl

theorem Account.username_giveBack (now : Instant) (a : Account) :
    (a.giveBack now).username = a.username := rfl

namespace Pool

/-- There is a flag for each account, and no username has two accounts. -/
structure Sound (p : Pool) : Prop where
  aligned : p.inUse.length = p.accounts.length
  distinct : p.usernames.Nodup

theorem sound_empty : Sound .empty := ⟨rfl, List.nodup_nil⟩

/-! ### Positions -/

variable {p q : Pool} {u v : String} {i j : Nat} {a : Account}

theorem username_of_position (h : p.position u = some i) :
    ∃ a, p.accounts[i]? = some a ∧ a.username = u := by
  obtain ⟨hlt, hu, -⟩ := List.findIdx?_eq_some_iff_getElem.mp h
  exact ⟨p.accounts[i], List.getElem?_eq_getElem hlt, by simpa using hu⟩

theorem exists?_iff : p.exists? u ↔ u ∈ p.usernames := by
  simp [exists?, position, usernames]

theorem exists?_of_isInUse (h : p.isInUse u) : p.exists? u := by
  simp only [isInUse, Option.any_eq_true] at h
  obtain ⟨i, hi, -⟩ := h
  simp [exists?, hi]

theorem isInUse_of_not_exists (h : p.exists? u = false) : p.isInUse u = false := by
  rw [exists?, Option.isSome_eq_false_iff, Option.isNone_iff_eq_none] at h
  rw [isInUse, h]
  rfl

theorem position_congr (h : q.usernames = p.usernames) (u : String) :
    q.position u = p.position u := by
  have hpos (r : Pool) : r.position u = r.usernames.findIdx? (· = u) := by
    rw [usernames, List.findIdx?_map]
    rfl
  rw [hpos, hpos, h]

namespace Sound

theorem position (h : p.Sound) (ha : p.accounts[i]? = some a) :
    p.position a.username = some i := by
  have hex : p.exists? a.username := exists?_iff.mpr
    (List.mem_map_of_mem (f := (·.username)) (List.mem_of_getElem? ha))
  obtain ⟨j, hj⟩ := Option.isSome_iff_exists.mp hex
  obtain ⟨b, hb, hu⟩ := username_of_position hj
  have hlt : i < p.usernames.length := by
    simpa [usernames] using (List.getElem?_eq_some_iff.mp ha).1
  have hij : i = j := by
    refine (List.getElem?_inj hlt h.distinct).mp ?_
    rw [usernames, List.getElem?_map, List.getElem?_map, ha, hb, Option.map_some, Option.map_some,
      hu]
  rw [hj, hij]

theorem lt_length (h : p.Sound) (ha : p.accounts[i]? = some a) : i < p.inUse.length := by
  rw [h.aligned]
  exact (List.getElem?_eq_some_iff.mp ha).1

/-- The flag looked up under the username of an account is the one at the account's position. -/
theorem isInUse (h : p.Sound) (ha : p.accounts[i]? = some a) :
    p.inUse[i]? = some (p.isInUse a.username) := by
  rw [Pool.isInUse, h.position ha, Option.any_some, flag, List.getD_eq_getElem?_getD,
    List.getElem?_eq_getElem (h.lt_length ha), Option.getD_some]

end Sound

/-! ### Pools with the same flags -/

/-- `q` has the usernames and the flags of `p`; the accounts may differ in all else. -/
structure SameFlags (p q : Pool) : Prop where
  usernames : q.usernames = p.usernames
  inUse : q.inUse = p.inUse

namespace SameFlags

theorem refl (p : Pool) : SameFlags p p := ⟨rfl, rfl⟩

theorem trans {r : Pool} (h1 : SameFlags p q) (h2 : SameFlags q r) : SameFlags p r :=
  ⟨h2.usernames.trans h1.usernames, h2.inUse.trans h1.inUse⟩

theorem sound (h : SameFlags p q) (hp : p.Sound) : q.Sound := by
  have hlen : q.accounts.length = p.accounts.length := by
    simpa [Pool.usernames] using congrArg List.length h.usernames
  exact ⟨by rw [h.inUse, hlen]; exact hp.aligned, by rw [h.usernames]; exact hp.distinct⟩

theorem isInUse (h : SameFlags p q) (u : String) : q.isInUse u = p.isInUse u := by
  have hflag : q.flag = p.flag := funext fun i => by rw [flag, flag, h.inUse]
  rw [Pool.isInUse, position_congr h.usernames, hflag]
  rfl

end SameFlags

/-! ### Changes of one account -/

section Modify

variable {g : Account → Account} (hg : ∀ a, (g a).username = a.username)
include hg

theorem usernames_modify (l : List Account) (i : Nat) :
    (l.modify i g).map (·.username) = l.map (·.username) := by
  refine List.ext_getElem? fun j => ?_
  rw [List.getElem?_map, List.getElem?_map, List.getElem?_modify]
  cases l[j]? with
  | none => rfl
  | some a => by_cases hij : i = j <;> simp [hij, hg]

theorem sameFlags_modifyAccount (p : Pool) (u : String) : SameFlags p (p.modifyAccount u g) := by
  unfold modifyAccount
  split
  · exact ⟨usernames_modify hg _ _, rfl⟩
  · exact .refl p

theorem Sound.setFlag (h : p.Sound) (i : Nat) (b : Bool) : (p.setFlag i g b).Sound :=
  ⟨by simpa [Pool.setFlag] using h.aligned, by
    rw [usernames, Pool.setFlag, usernames_modify hg]
    exact h.distinct⟩

omit hg in
theorem flag_setFlag (hi : i < p.inUse.length) (b : Bool) (j : Nat) :
    (p.setFlag i g b).flag j = if i = j then b else p.flag j := by
  simp only [flag, Pool.setFlag, List.getD_eq_getElem?_getD, List.getElem?_set]
  split <;> simp_all

/-- A flag that is put up or down under an account is that of its username. -/
theorem isInUse_setFlag (h : p.Sound) (ha : p.accounts[i]? = some a) (b : Bool) (v : String) :
    (p.setFlag i g b).isInUse v = if v = a.username then b else p.isInUse v := by
  have hpos := position_congr (q := p.setFlag i g b) (usernames_modify hg p.accounts i) v
  have hflag (j : Nat) := flag_setFlag (g := g) (h.lt_length ha) b j
  rw [isInUse, hpos]
  split
  next hv =>
    rw [hv, h.position ha, Option.any_some, hflag, if_pos rfl]
  next hv =>
    rw [isInUse]
    cases hj : p.position v with
    | none => rfl
    | some j =>
      obtain ⟨b, hb, rfl⟩ := username_of_position hj
      have hij : i ≠ j := fun hij => hv (by rw [hij, hb] at ha; rw [Option.some.inj ha])
      rw [Option.any_some, hflag, if_neg hij, Option.any_some]

end Modify

theorem usernames_release (p : Pool) (u : String) (now : Instant) :
    (p.release u now).usernames = p.usernames := by
  unfold Pool.release
  split
  · exact usernames_modify (Account.username_giveBack now) _ _
  · rfl

theorem Sound.release (h : p.Sound) (u : String) (now : Instant) : (p.release u now).Sound := by
  unfold Pool.release
  split
  · exact h.setFlag (Account.username_giveBack now) _ _
  · exact h

theorem isInUse_release (h : p.Sound) (u v : String) (now : Instant) :
    (p.release u now).isInUse v = (decide (v ≠ u) && p.isInUse v) := by
  unfold Pool.release
  split
  next i hi =>
    obtain ⟨a, ha, rfl⟩ := username_of_position hi
    rw [isInUse_setFlag (Account.username_giveBack now) h ha]
    by_cases hv : v = a.username <;> simp [hv]
  next hi =>
    by_cases hv : v = u
    · subst hv
      simp [isInUse, hi]
    · simp [hv]

/-! ### Selection -/

theorem oldest_mem {l : List (Nat × Instant)} {c : Nat × Instant} (h : oldest l = some c) :
    c ∈ l := by
  induction l generalizing c with
  | nil => cases h
  | cons d l ih =>
    simp only [oldest] at h
    split at h
    next => cases h; exact List.mem_cons_self
    next best hbest =>
      split at h
      next => cases h; exact List.mem_cons_self
      next => cases h; exact List.mem_cons_of_mem d (ih hbest)

/-- A candidate is the position of an account that is not in use, may be used and is accepted, with
the time of its release. -/
theorem mem_candidates_iff {accept : Account → Bool} {now t : Instant} :
    (i, t) ∈ p.candidates accept now ↔
      ∃ a, p.accounts[i]? = some a ∧ p.flag i = false ∧ a.isUsable now ∧ accept a ∧
        a.lastReleased = some t := by
  simp only [candidates, candidate?, List.mem_filterMap, Prod.exists, List.mem_zipIdx_iff_getElem?]
  constructor
  · rintro ⟨a, j, ha, hc⟩
    split at hc
    next => cases hc
    next hnot =>
      obtain ⟨s, hs, he⟩ := Option.map_eq_some_iff.mp hc
      cases he
      simp only [Bool.or_eq_true, Bool.not_eq_true', not_or, Bool.not_eq_true,
        Bool.not_eq_false] at hnot
      exact ⟨a, ha, hnot.1.1, hnot.1.2, hnot.2, hs⟩
  · rintro ⟨a, ha, hflag, husable, haccept, ht⟩
    exact ⟨a, i, ha, by simp [hflag, husable, haccept, ht]⟩

/-- What a selection does: it changes nothing, or it marks an account that is not in use. -/
theorem allocate_cases (p : Pool) (accept : Account → Bool) (now : Instant) :
    p.allocate accept now = (none, p) ∨
      ∃ i a, p.accounts[i]? = some a ∧ p.flag i = false ∧
        p.allocate accept now = (some a.credentials, p.setFlag i (·.select now) true) := by
  unfold allocate
  split
  next => exact .inl rfl
  next i t ho =>
    obtain ⟨a, ha, hflag, -⟩ := mem_candidates_iff.mp (oldest_mem ho)
    exact .inr ⟨i, a, ha, hflag, by rw [ha]; rfl⟩

theorem usernames_allocate (p : Pool) (accept : Account → Bool) (now : Instant) :
    (p.allocate accept now).2.usernames = p.usernames := by
  rcases p.allocate_cases accept now with ha | ⟨i, a, -, -, ha⟩
  · rw [ha]
  · rw [ha]
    exact usernames_modify (Account.username_select now) _ _

theorem Sound.allocate (h : p.Sound) (accept : Account → Bool) (now : Instant) :
    (p.allocate accept now).2.Sound := by
  rcases p.allocate_cases accept now with ha | ⟨i, a, -, -, ha⟩
  · rw [ha]
    exact h
  · rw [ha]
    exact h.setFlag (Account.username_select now) _ _

/-- A selected account was not in use, and it is the only one whose flag changes. -/
theorem isInUse_allocate (h : p.Sound) {accept : Account → Bool} {now : Instant}
    {c : Credentials} (hc : (p.allocate accept now).1 = some c) :
    p.isInUse c.username = false ∧
      ∀ v, (p.allocate accept now).2.isInUse v = (decide (v = c.username) || p.isInUse v) := by
  rcases p.allocate_cases accept now with hn | ⟨i, a, ha, hflag, hn⟩
  · rw [hn] at hc
    cases hc
  · rw [hn] at hc ⊢
    cases hc
    refine ⟨?_, fun v => ?_⟩
    · rw [Account.credentials, isInUse, h.position ha]
      exact hflag
    · rw [isInUse_setFlag (Account.username_select now) h ha]
      by_cases hv : v = a.username <;> simp [Account.credentials, hv]

theorem allocate_eq_none {accept : Account → Bool} {now : Instant}
    (ha : (p.allocate accept now).1 = none) : (p.allocate accept now).2 = p := by
  rcases p.allocate_cases accept now with hn | ⟨i, a, -, -, hn⟩
  · rw [hn]
  · rw [hn] at ha
    cases ha

end Pool

end ScanFleet
