import ScanFleet.Proofs.Pool.Run
import ScanFleet.Proofs.Pool.Selection

/-! Waiting for a selection.  An account that can be selected is passed over only for one that was
released no later.  That one is then in use, and when it is given back it has a later time of
release; so it is passed over for each of the others once at most. -/

namespace ScanFleet

namespace Pool

/-- When the account at a position was released, if it has a time of release. -/
def releasedAt? (p : Pool) (i : Nat) : Option Instant := p.accounts[i]?.bind (·.lastReleased)

/-- What a worker gets when the account at a position is selected. -/
def credentialsAt? (p : Pool) (i : Nat) : Option Credentials := p.accounts[i]?.map (·.credentials)

/-- Between two pools no account got a time of release, but for later ones than `r`, and none at
all at the position `i`. -/
structure NoEarlier (i : Nat) (r : Instant) (p q : Pool) : Prop where
  credentials : q.credentialsAt? = p.credentialsAt?
  released : ∀ j s, q.releasedAt? j = some s → p.releasedAt? j = some s ∨ j ≠ i ∧ r < s

/-- The account at a position was released after `r`, if it has a time of release. -/
def IsLate (p : Pool) (r : Instant) (j : Nat) : Prop := ∀ s, p.releasedAt? j = some s → r < s

variable {p q : Pool} {i j : Nat} {r : Instant}

theorem NoEarlier.refl (i : Nat) (r : Instant) (p : Pool) : NoEarlier i r p p :=
  ⟨rfl, fun _ _ => .inl⟩

theorem NoEarlier.isLate (h : NoEarlier i r p q) (hj : p.IsLate r j) : q.IsLate r j := fun s hs =>
  (h.released j s hs).elim (hj s) And.right

theorem lt_of_not_isLate (h : ¬ p.IsLate r j) : j < p.accounts.length := by
  by_contra hge
  refine h fun s hs => ?_
  rw [releasedAt?, List.getElem?_eq_none (Nat.le_of_not_lt hge)] at hs
  cases hs

theorem credentialsAt?_modify {k : Account → Account}
    (hk : ∀ a, (k a).credentials = a.credentials) (h : q.accounts = p.accounts.modify j k) :
    q.credentialsAt? = p.credentialsAt? := by
  funext n
  rw [credentialsAt?, credentialsAt?, h, List.getElem?_modify]
  cases p.accounts[n]? with
  | none => rfl
  | some a => by_cases hn : j = n <;> simp [hn, hk]

theorem releasedAt?_modify {k : Account → Account} (h : q.accounts = p.accounts.modify j k)
    (n : Nat) : q.releasedAt? n =
      if j = n then p.accounts[n]?.bind fun a => (k a).lastReleased else p.releasedAt? n := by
  rw [releasedAt?, releasedAt?, h, List.getElem?_modify]
  cases p.accounts[n]? with
  | none => simp
  | some a => by_cases hn : j = n <;> simp [hn]

theorem releasedAt?_select {now : Instant}
    (h : q.accounts = p.accounts.modify j (·.select now)) (n : Nat) :
    q.releasedAt? n = if j = n then none else p.releasedAt? n := by
  rw [releasedAt?_modify h]
  split
  · cases p.accounts[n]? <;> rfl
  · rfl

theorem noEarlier_modifyAccount {k : Account → Account}
    (hk : ∀ a, (k a).credentials = a.credentials)
    (hreleased : ∀ a, (k a).lastReleased = a.lastReleased) (u : String) :
    NoEarlier i r p (p.modifyAccount u k) := by
  unfold modifyAccount
  split
  next j _ =>
    refine ⟨credentialsAt?_modify hk rfl, fun n s hs => .inl ?_⟩
    rw [releasedAt?_modify (j := j) rfl] at hs
    simpa only [hreleased, releasedAt?, ite_self] using hs
  next => exact .refl i r p

theorem noEarlier_release {c : Credentials} {u : String} {now : Instant}
    (hc : p.credentialsAt? i = some c) (hu : u ≠ c.username) (hnow : r < now) :
    NoEarlier i r p (p.release u now) := by
  unfold release
  split
  next j hj =>
    obtain ⟨a, ha, rfl⟩ := username_of_position hj
    have hne : j ≠ i := by
      rintro rfl
      rw [credentialsAt?, ha, Option.map_some] at hc
      cases hc
      exact hu rfl
    refine ⟨credentialsAt?_modify (k := (·.giveBack now)) (fun _ => rfl) rfl, fun n s hs => ?_⟩
    rw [releasedAt?_modify (j := j) rfl] at hs
    split at hs
    next hn =>
      subst hn
      rw [ha] at hs
      cases hs
      exact .inr ⟨hne, hnow⟩
    next => exact .inl hs
  next => exact .refl i r p

theorem noEarlier_select {now : Instant} (h : q.accounts = p.accounts.modify j (·.select now)) :
    NoEarlier i r p q := by
  refine ⟨credentialsAt?_modify (k := (·.select now)) (fun _ => rfl) h, fun n s hs => .inl ?_⟩
  rw [releasedAt?_select h] at hs
  split at hs
  · cases hs
  · exact hs

/-- With an account to be selected there is a selection, of one that was released no later. -/
theorem allocate_of_eligible {accept : Account → Bool} {now : Instant} {a : Account}
    (h : p.Eligible accept now i a r) :
    ∃ j, ¬ p.IsLate r j ∧ (p.allocate accept now).1 = p.credentialsAt? j ∧
      (p.allocate accept now).2.accounts = p.accounts.modify j (·.select now) := by
  unfold allocate
  rcases p.oldest_candidates accept now with ⟨-, hnone⟩ | ⟨j, b, t, ho, hb⟩
  · exact absurd ⟨i, a, r, h⟩ hnone
  · have ht : p.releasedAt? j = some t := by
      rw [releasedAt?, hb.account, Option.bind_some, hb.released]
    have hle : t ≤ r := (hb.least i a r h).1
    rw [ho]
    exact ⟨j, fun hlate => Int.not_lt.mpr hle (hlate t ht), rfl, rfl⟩

end Pool

namespace Fleet

variable {σ : Type} [Store σ]

/-- What may happen while the account `u` at the position `i`, released at `r`, waits: whenever an
account is asked for it can be selected, others are given back later than it was, and accounts are
marked. -/
def LetsWait (i : Nat) (u : Account) (r : Instant) (f : Fleet σ) : PoolOperation σ → Prop
  | .allocate accept now => ∃ a, f.pool.Eligible accept now i a r
  | .release username now => username ≠ u.username ∧ r < now
  | .mark _ _ => True
  | .reload | .importAccounts _ | .edit _ => False

/-- Every operation of a run lets an account wait. -/
def Waits (i : Nat) (u : Account) (r : Instant) : Fleet σ → List (PoolOperation σ) → Prop
  | _, [] => True
  | f, op :: ops => f.LetsWait i u r op ∧ (f.afterPool op).Waits i u r ops

/-- The answers to those who ask for an account in a run. -/
def handOuts : Fleet σ → List (PoolOperation σ) → List (Option Credentials)
  | _, [] => []
  | f, op :: ops =>
    match op with
    | .allocate accept now => (f.allocate accept now).1 :: (f.afterPool op).handOuts ops
    | _ => (f.afterPool op).handOuts ops

variable {f : Fleet σ} {i : Nat} {u : Account} {r : Instant}

theorem noEarlier_mark (f : Fleet σ) (i : Nat) (r : Instant) (username : String) (m : AccountMark) :
    Pool.NoEarlier i r f.pool (f.mark username m).pool := by
  cases m with
  | tutorialDone =>
    rw [mark, markTutorialDone]
    split
    · exact .refl i r f.pool
    · exact Pool.noEarlier_modifyAccount (by intro; rfl) (by intro; rfl) username
  | level n =>
    rw [mark, setLevel]
    split
    · exact .refl i r f.pool
    · split
      · exact .refl i r f.pool
      · exact Pool.noEarlier_modifyAccount (by intro; rfl) (by intro; rfl) username
  | suspended | banned | disabled | invalid | warned =>
    exact Pool.noEarlier_modifyAccount (by intro; rfl) (by intro; rfl) username

theorem noEarlier_afterPool (hu : f.pool.credentialsAt? i = some u.credentials)
    {op : PoolOperation σ} (h : f.LetsWait i u r op) :
    Pool.NoEarlier i r f.pool (f.afterPool op).pool := by
  cases op with
  | allocate accept now =>
    obtain ⟨a, ha⟩ := h
    obtain ⟨j, -, -, haccounts⟩ := Pool.allocate_of_eligible ha
    rw [afterPool, allocate_pool]
    exact Pool.noEarlier_select haccounts
  | release username now => exact Pool.noEarlier_release hu h.1 h.2
  | mark username m => exact f.noEarlier_mark i r username m
  | reload | importAccounts | edit => exact h.elim

/-- After the selection of the account that waits no run goes on to ask for another one. -/
theorem handOuts_of_selected (hu : f.pool.credentialsAt? i = some u.credentials)
    (hnone : f.pool.releasedAt? i = none) {ops : List (PoolOperation σ)} (h : f.Waits i u r ops) :
    f.handOuts ops = [] := by
  induction ops generalizing f with
  | nil => rfl
  | cons op ops ih =>
    have hstep := noEarlier_afterPool hu h.1
    have hstill : (f.afterPool op).pool.releasedAt? i = none :=
      Option.eq_none_iff_forall_ne_some.mpr fun s hs =>
        (hstep.released i s hs).elim (by simp [hnone]) fun hne => hne.1 rfl
    have hrest := ih (by rw [hstep.credentials, hu]) hstill h.2
    cases op with
    | allocate accept now =>
      obtain ⟨a, ha⟩ := h.1
      rw [Pool.releasedAt?, ha.account, Option.bind_some, ha.released] at hnone
      cases hnone
    | _ => exact hrest

/-- While an account waits, nobody is selected twice, and only those that were not released after
it; its own selection is the last one. -/
theorem exists_handOuts (hu : f.pool.credentialsAt? i = some u.credentials)
    {ops : List (PoolOperation σ)} (h : f.Waits i u r ops) :
    ∃ order : List Nat, f.handOuts ops = order.map f.pool.credentialsAt? ∧ order.Nodup ∧
      (∀ j ∈ order, ¬ f.pool.IsLate r j) ∧ (i ∈ order → order.getLast? = some i) := by
  induction ops generalizing f with
  | nil => exact ⟨[], rfl, List.nodup_nil, nofun, nofun⟩
  | cons op ops ih =>
    have hstep := noEarlier_afterPool hu h.1
    have hu' : (f.afterPool op).pool.credentialsAt? i = some u.credentials := by
      rw [hstep.credentials, hu]
    obtain ⟨order, horder, hnodup, hfirst, hlast⟩ := ih hu' h.2
    have hearly : ∀ j ∈ order, ¬ f.pool.IsLate r j := fun j hj => mt hstep.isLate (hfirst j hj)
    rw [hstep.credentials] at horder
    cases op with
    | allocate accept now =>
      obtain ⟨a, ha⟩ := h.1
      obtain ⟨j, hj, hc, haccounts⟩ := Pool.allocate_of_eligible ha
      rw [← allocate_fst] at hc
      rw [← allocate_pool] at haccounts
      have hnone : (f.afterPool (.allocate accept now)).pool.releasedAt? j = none := by
        rw [afterPool, Pool.releasedAt?_select haccounts, if_pos rfl]
      by_cases hi : j = i
      · subst hi
        refine ⟨[j], ?_, List.nodup_singleton j, List.forall_mem_singleton.mpr hj, fun _ => rfl⟩
        rw [handOuts, handOuts_of_selected hu' hnone h.2, hc]
        rfl
      · -- The account has no time of release now, so it is none of those that are selected later.
        have hnot : j ∉ order := fun hmem => hfirst j hmem fun s hs => by
          rw [hnone] at hs
          cases hs
        refine ⟨j :: order, ?_, List.nodup_cons.mpr ⟨hnot, hnodup⟩,
          List.forall_mem_cons.mpr ⟨hj, hearly⟩, fun hmem => ?_⟩
        · rw [handOuts, hc, List.map_cons]
          exact congrArg (_ :: ·) horder
        · rw [List.getLast?_cons, hlast ((List.mem_cons.mp hmem).resolve_left (Ne.symm hi))]
          rfl
    | release | mark | reload | importAccounts | edit =>
      exact ⟨order, horder, hnodup, hearly, hlast⟩

/-- While an account waits, everybody who asks for an account gets one, and nobody one that another
got before.  It is selected at the latest when each of the others was, and that ends its wait. -/
theorem bounded_overtaking (f : Fleet σ) {i : Nat} {u : Account} {r : Instant}
    (hu : f.pool.accounts[i]? = some u) {ops : List (PoolOperation σ)} (h : f.Waits i u r ops) :
    ∃ order : List Nat, f.handOuts ops = order.map f.pool.credentialsAt? ∧ order.Nodup ∧
      (∀ j ∈ order, j < f.pool.accounts.length) ∧
      (i ∈ order → order.getLast? = some i) ∧
      (f.pool.accounts.length ≤ order.length → i ∈ order) ∧
      (∀ c ∈ f.handOuts ops, c.isSome) ∧
      (f.pool.usernames.Nodup → ((f.handOuts ops).map (·.map (·.username))).Nodup) := by
  have hc : f.pool.credentialsAt? i = some u.credentials := by
    rw [Pool.credentialsAt?, hu, Option.map_some]
  obtain ⟨order, horder, hnodup, hearly, hlast⟩ := exists_handOuts hc h
  have hbound : ∀ j ∈ order, j < f.pool.accounts.length := fun j hj =>
    Pool.lt_of_not_isLate (hearly j hj)
  refine ⟨order, horder, hnodup, hbound, hlast, fun hle => ?_, fun c hmem => ?_, fun hnames => ?_⟩
  · by_contra hi
    have hlt : i < f.pool.accounts.length := (List.getElem?_eq_some_iff.mp hu).1
    have hsub : i :: order ⊆ List.range f.pool.accounts.length :=
      List.cons_subset.mpr ⟨List.mem_range.mpr hlt, fun j hj => List.mem_range.mpr (hbound j hj)⟩
    have hlen := (List.nodup_cons.mpr ⟨hi, hnodup⟩).length_le_of_subset hsub
    rw [List.length_cons, List.length_range] at hlen
    omega
  · rw [horder] at hmem
    obtain ⟨j, hj, rfl⟩ := List.mem_map.mp hmem
    rw [Pool.credentialsAt?, List.getElem?_eq_getElem (hbound j hj)]
    rfl
  · have hname (j : Nat) : (f.pool.credentialsAt? j).map (·.username) = f.pool.usernames[j]? := by
      rw [Pool.credentialsAt?, Pool.usernames, List.getElem?_map, Option.map_map]
      rfl
    rw [horder, List.map_map]
    refine hnodup.map_on fun j hj k hk he => ?_
    simp only [Function.comp_apply, hname] at he
    have hlt : j < f.pool.usernames.length := by
      rw [Pool.usernames, List.length_map]
      exact hbound j hj
    exact (List.getElem?_inj hlt hnames).mp he

/-- The account "ada" was released at 5, "dan", which stands before it, as well, and the other two
before. -/
def fourFree : Fleet Tables :=
  { Fleet.new default Tables.empty with
    pool := {
      accounts := [("dan", 5), ("bob", 1), ("ada", 5), ("cyd", 2)].map fun (name, released) =>
        { Account.fresh ⟨name, "pw", 30⟩ with lastReleased := some released }
      inUse := [false, false, false, false] } }

/-- Others are selected, marked and given back while "ada" waits. -/
def errandsOfOthers : List (PoolOperation Tables) :=
  [.allocate (fun _ => true) 10, .mark "bob" .invalid, .release "bob" 11,
    .allocate (fun _ => true) 12, .mark "ada" (.level 31), .release "cyd" 13,
    .allocate (·.hasLevelBetween 30 40) 14, .mark "dan" (.banned 15),
    .allocate (fun _ => true) 16]

/-- Each of the others is selected once before "ada". -/
theorem bounded_overtaking_fourFree :
    let ada := { Account.fresh ⟨"ada", "pw", 30⟩ with lastReleased := some 5 }
    fourFree.pool.accounts[2]? = some ada ∧ fourFree.Waits 2 ada 5 errandsOfOthers ∧
    (fourFree.handOuts errandsOfOthers).map (·.map (·.username)) =
      [some "bob", some "cyd", some "dan", some "ada"] ∧
    ∃ order : List Nat, fourFree.handOuts errandsOfOthers =
        order.map fourFree.pool.credentialsAt? ∧ order.Nodup ∧ order.getLast? = some 2 := by
  intro ada
  have hada : fourFree.pool.accounts[2]? = some ada := by decide +kernel
  have hwaits : fourFree.Waits 2 ada 5 errandsOfOthers := by
    have eligible {f : Fleet Tables} {accept : Account → Bool} {now : Instant}
        (h : (2, 5) ∈ f.pool.candidates accept now) : f.LetsWait 2 ada 5 (.allocate accept now) :=
      Pool.mem_candidates_iff_eligible.mp h
    refine ⟨eligible ?_, trivial, ⟨?_, ?_⟩, eligible ?_, trivial, ⟨?_, ?_⟩, eligible ?_, trivial,
      eligible ?_, trivial⟩
    all_goals decide +kernel
  have hnames : (fourFree.handOuts errandsOfOthers).map (·.map (·.username)) =
      [some "bob", some "cyd", some "dan", some "ada"] := by decide +kernel
  obtain ⟨order, horder, hnodup, -, hlast, hall, -⟩ := fourFree.bounded_overtaking hada hwaits
  have hlen : fourFree.pool.accounts.length ≤ order.length := by
    rw [← List.length_map (f := fourFree.pool.credentialsAt?), ← horder]
    decide +kernel
  exact ⟨hada, hwaits, hnames, order, horder, hnodup, hlast (hall hlen)⟩

end Fleet

end ScanFleet
