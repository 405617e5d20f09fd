import ScanFleet.Proofs.Fleet.Accounts
import ScanFleet.Proofs.Pool.Records

/-! Selections.  An account is eligible when it is free and may be used, is accepted, and has a time
of release.  The account that is selected is the eligible one that was released the longest time
ago, and of several such the first in the pool. -/

namespace ScanFleet

theorem Account.isUsable_iff {a : Account} {now : Instant} :
    a.isUsable now ↔ a.suspended = false ∧ a.banned = false ∧
      (∀ expiration, a.warnExpiration = some expiration → expiration ≤ now) ∧
      ∀ s, a.lastDisabled = some s → s + Span.ofHours 24 ≤ now := by
  have hwarn : a.warnActive now = false ↔
      ∀ expiration, a.warnExpiration = some expiration → expiration ≤ now := by
    rw [warnActive, Option.any_eq_false]
    exact forall₂_congr fun _ _ => by rw [decide_eq_false_iff_not, Int.not_lt]
  have hdisabled : a.disabledRecently now = false ↔
      ∀ s, a.lastDisabled = some s → s + Span.ofHours 24 ≤ now := by
    rw [disabledRecently, Option.any_eq_false]
    exact forall₂_congr fun _ _ => by
      rw [decide_eq_false_iff_not, Int.not_lt, Int.add_le_iff_le_sub, disableCooldown]
  simp only [isUsable, Bool.and_eq_true, Bool.not_eq_true', hwarn, hdisabled, and_assoc]

namespace Pool

/-- The account `a` at position `i`, released at `t`, can be selected at the time `now`. -/
structure Eligible (p : Pool) (accept : Account → Bool) (now : Instant) (i : Nat) (a : Account)
    (t : Instant) : Prop where
  account : p.accounts[i]? = some a
  free : p.flag i = false
  suspended : a.suspended = false
  banned : a.banned = false
  warning : ∀ expiration, a.warnExpiration = some expiration → expiration ≤ now
  disabled : ∀ s, a.lastDisabled = some s → s + Span.ofHours 24 ≤ now
  accepted : accept a
  released : a.lastReleased = some t

/-- No eligible account was released before `a`, nor at the same time if it stands before `a`. -/
structure LeastRecent (p : Pool) (accept : Account → Bool) (now : Instant) (i : Nat) (a : Account)
    (t : Instant) : Prop extends p.Eligible accept now i a t where
  least : ∀ j b s, p.Eligible accept now j b s → t ≤ s ∧ (j < i → t < s)

variable {p : Pool} {accept : Account → Bool} {now t : Instant} {i : Nat}

theorem mem_candidates_iff_eligible :
    (i, t) ∈ p.candidates accept now ↔ ∃ a, p.Eligible accept now i a t := by
  rw [mem_candidates_iff]
  refine exists_congr fun a => ?_
  rw [Account.isUsable_iff]
  constructor
  · rintro ⟨ha, hfree, ⟨hs, hb, hw, hd⟩, hacc, ht⟩
    exact ⟨ha, hfree, hs, hb, hw, hd, hacc, ht⟩
  · intro h
    exact ⟨h.account, h.free, ⟨h.suspended, h.banned, h.warning, h.disabled⟩, h.accepted,
      h.released⟩

/-- The candidates are listed in the order of the pool. -/
theorem pairwise_candidates (p : Pool) (accept : Account → Bool) (now : Instant) :
    (p.candidates accept now).Pairwise (·.1 < ·.1) := by
  have hpos : (p.accounts.zipIdx.map (·.2)).Pairwise (· < ·) := by
    rw [List.zipIdx_map_snd]
    exact List.pairwise_lt_range'
  have hfst {x : Account × Nat} {c : Nat × Instant}
      (h : p.candidate? accept now x.1 x.2 = some c) : c.1 = x.2 := by
    unfold candidate? at h
    split at h
    · cases h
    · obtain ⟨t, -, rfl⟩ := Option.map_eq_some_iff.mp h
      rfl
  refine (List.pairwise_map.mp hpos).filterMap _ fun x y hxy c hc d hd => ?_
  rw [hfst hc, hfst hd]
  exact hxy

theorem oldest_least {l : List (Nat × Instant)} (hl : l.Pairwise (·.1 < ·.1))
    {c : Nat × Instant} (hc : oldest l = some c) :
    ∀ d ∈ l, c.2 ≤ d.2 ∧ (d.1 < c.1 → c.2 < d.2) := by
  induction l generalizing c with
  | nil => cases hc
  | cons e l ih =>
    obtain ⟨he, hl⟩ := List.pairwise_cons.mp hl
    rw [oldest] at hc
    cases ho : oldest l with
    | none =>
      obtain rfl : l = [] := by
        by_contra hne
        simpa [ho] using oldest_isSome hne
      obtain rfl : e = c := by simpa [ho] using hc
      simp
    | some best =>
      have hbest := ih hl ho
      simp only [ho] at hc
      rw [List.forall_mem_cons]
      -- The first of the two stays when both were released at the same time.
      split at hc
      next hle =>
        obtain rfl := Option.some.inj hc
        refine ⟨⟨Int.le_refl _, fun h => absurd h (Nat.lt_irrefl _)⟩, fun d hd => ?_⟩
        exact ⟨Int.le_trans hle (hbest d hd).1, fun h => absurd h (Nat.lt_asymm (he d hd))⟩
      next hlt =>
        obtain rfl := Option.some.inj hc
        have hlt := Int.not_le.mp hlt
        exact ⟨⟨Int.le_of_lt hlt, fun _ => hlt⟩, hbest⟩

/-- What a selection finds is the least recent of the eligible accounts, if there are any. -/
theorem oldest_candidates (p : Pool) (accept : Account → Bool) (now : Instant) :
    (oldest (p.candidates accept now) = none ∧ ¬ ∃ i a t, p.Eligible accept now i a t) ∨
    ∃ i a t, oldest (p.candidates accept now) = some (i, t) ∧ p.LeastRecent accept now i a t := by
  cases ho : oldest (p.candidates accept now) with
  | none =>
    refine .inl ⟨rfl, ?_⟩
    rintro ⟨i, a, t, h⟩
    have hmem := mem_candidates_iff_eligible.mpr ⟨a, h⟩
    simpa [ho] using oldest_isSome (List.ne_nil_of_mem hmem)
  | some c =>
    obtain ⟨a, ha⟩ := mem_candidates_iff_eligible.mp (oldest_mem ho)
    refine .inr ⟨c.1, a, c.2, rfl, ha, fun j b s hb => ?_⟩
    exact oldest_least (p.pairwise_candidates accept now) ho (j, s)
      (mem_candidates_iff_eligible.mpr ⟨b, hb⟩)

end Pool

/-- A selection fails exactly if no account is eligible, and changes nothing then.  Else it takes
the least recent one, and of the pool it changes the account's times and flag alone. -/
theorem Fleet.allocate_leastRecent {σ : Type} [Store σ] (f : Fleet σ) (accept : Account → Bool)
    (now : Instant) :
    ((f.allocate accept now).1 = none ↔ ¬ ∃ i a t, f.pool.Eligible accept now i a t) ∧
    ((f.allocate accept now).1 = none → (f.allocate accept now).2 = f) ∧
    ∀ c, (f.allocate accept now).1 = some c → ∃ i a t, f.pool.LeastRecent accept now i a t ∧
      c = ⟨a.username, a.password⟩ ∧
      (f.allocate accept now).2 = { f with pool :=
        { accounts := f.pool.accounts.set i
            { a with lastReleased := none, lastSelected := some now }
          inUse := f.pool.inUse.set i true } }.persist (.selected a.username now) ∧
      (f.pool.inUse.length = f.pool.accounts.length → ∀ j,
        (f.allocate accept now).2.pool.flag j = if i = j then true else f.pool.flag j) := by
  unfold allocate Pool.allocate
  rcases f.pool.oldest_candidates accept now with ⟨ho, hnone⟩ | ⟨i, a, t, ho, ha⟩
  · simp only [ho, true_iff]
    exact ⟨hnone, fun _ => trivial, fun c hc => by cases hc⟩
  · have haccount := ha.account
    simp only [ho, haccount, Option.map_some, reduceCtorEq, false_iff, not_not, false_implies,
      true_and]
    refine ⟨⟨i, a, t, ha.toEligible⟩, ?_⟩
    intro c hc
    obtain rfl := Option.some.inj hc
    refine ⟨i, a, t, ha, rfl, ?_, fun haligned => ?_⟩
    · rw [Pool.setFlag, List.modify_eq_set_getElem?, haccount]
      rfl
    · have hi : i < f.pool.inUse.length := by
        rw [haligned]
        exact (List.getElem?_eq_some_iff.mp haccount).1
      exact Pool.flag_setFlag hi true

end ScanFleet
