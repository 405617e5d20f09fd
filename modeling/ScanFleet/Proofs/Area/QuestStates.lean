import ScanFleet.Proofs.Area.Reconciliation

/-! The state of quest scanning in an area: its quest route and the step of it that comes next,
while a pass runs.  A start begins a pass, a request for a job takes a step, and a rebuild or a
reconciliation replaces the route, which may end the pass. -/

namespace ScanFleet

/-- The quest route of an area, and the step of it that comes next while a pass runs. -/
structure QuestState where
  route : Route
  next : Option Nat

namespace QuestState

/-- A pass that runs has a route, and its next step is on the route or just behind its end. -/
def Sound (q : QuestState) : Prop := ∀ k, q.next = some k → q.route ≠ [] ∧ k ≤ q.route.length

/-- The step that a request takes, if there is one. -/
def given (q : QuestState) : Option Nat := q.next.filter (· < q.route.length)

/-- The state after a request.  A request that finds no step left ends the pass. -/
def turn (q : QuestState) : QuestState := ⟨q.route, q.given.map (· + 1)⟩

/-- The state at the start of a pass, which needs a route. -/
def started (q : QuestState) (route : Route) : QuestState :=
  ⟨route, if route = [] then q.next else some 0⟩

/-- The state after the route was replaced.  A pass whose next step is not on the new route ends. -/
def replaced (q : QuestState) (route : Route) : QuestState :=
  ⟨route, q.next.filter (· < route.length)⟩

/-- The state after the route was replaced, if it was. -/
def replacedBy (q : QuestState) : Option Route → QuestState
  | none => q
  | some route => q.replaced route

theorem replacedBy_none (q : QuestState) : q.replacedBy none = q := rfl

theorem map_replacedBy_none (q : Option QuestState) : q.map (·.replacedBy none) = q :=
  Option.map_id_apply

theorem replacedBy_replacedBy (q : QuestState) (route : Option Route) :
    (q.replacedBy route).replacedBy route = q.replacedBy route := by
  cases route with
  | none => rfl
  | some route => simp [replacedBy, replaced, Option.filter_filter]

/-- What was done to a state: nothing, or its route was replaced by itself, if `p` says so. -/
def Refreshed (q q' : QuestState) (p : Prop) : Prop := q' = q ∨ q' = q.replaced q.route ∧ p

theorem Refreshed.route {q q' : QuestState} {p : Prop} (h : q.Refreshed q' p) :
    q'.route = q.route := by
  rcases h with rfl | ⟨rfl, -⟩ <;> rfl

theorem Refreshed.replaced {q q' : QuestState} {p : Prop} (h : q.Refreshed q' p) (hp : p) :
    q.Refreshed (q'.replaced q.route) p := by
  rcases h with rfl | ⟨rfl, -⟩
  · exact .inr ⟨rfl, hp⟩
  · exact .inr ⟨replacedBy_replacedBy q (some q.route), hp⟩

theorem refreshed_replacedBy {q : QuestState} {new : Option Route}
    (h : ∀ route ∈ new.toList, route = q.route) :
    q.Refreshed (q.replacedBy new) (new.toList ≠ []) := by
  cases new with
  | none => exact .inl rfl
  | some route =>
    obtain rfl := h route List.mem_cons_self
    exact .inr ⟨rfl, List.cons_ne_nil _ _⟩

theorem given_eq_some {q : QuestState} {k : Nat} :
    q.given = some k ↔ q.next = some k ∧ k < q.route.length := by
  rw [given, Option.filter_eq_some_iff, decide_eq_true_eq]

theorem Sound.turn {q : QuestState} : q.turn.Sound := by
  intro k hk
  obtain ⟨j, hj, rfl⟩ := Option.map_eq_some_iff.mp hk
  have hlt := (given_eq_some.mp hj).2
  exact ⟨List.ne_nil_of_length_pos (Nat.zero_lt_of_lt hlt), hlt⟩

theorem Sound.started {q : QuestState} (h : q.Sound) {route : Route}
    (hroute : route = [] → q.route = []) : (q.started route).Sound := by
  intro k hk
  simp only [QuestState.started] at hk ⊢
  split at hk
  next hnil => exact absurd (hroute hnil) (h k hk).1
  next hne =>
    cases hk
    exact ⟨hne, Nat.zero_le _⟩

theorem Sound.replaced {q : QuestState} {route : Route} : (q.replaced route).Sound := by
  intro k hk
  obtain ⟨-, hlt⟩ := Option.filter_eq_some_iff.mp hk
  have hlt : k < route.length := by simpa using hlt
  exact ⟨List.ne_nil_of_length_pos (Nat.zero_lt_of_lt hlt), Nat.le_of_lt hlt⟩

theorem Sound.replacedBy {q : QuestState} (h : q.Sound) (route : Option Route) :
    (q.replacedBy route).Sound := by
  cases route with
  | none => exact h
  | some route => exact .replaced

theorem Sound.idle (route : Route) : Sound ⟨route, none⟩ := nofun

/-! ### Passes -/

/-- A pass over a route of which `n` steps were asked for.  It ends with the first request after
the last step, or with an earlier replacement of the route. -/
structure Asked (q : QuestState) (route : Route) (n : Nat) : Prop where
  same : q.route = route
  next : q.next = some n ∧ n ≤ route.length ∨ q.next = none ∧ route.length ≤ n

/-- The pass over a route of which `n` steps were asked for, when the route was not replaced. -/
def passAt (route : Route) (n : Nat) : QuestState :=
  ⟨route, if n ≤ route.length then some n else none⟩

variable {q : QuestState} {route : Route} {n : Nat}

theorem started_of_ne_nil (q : QuestState) (h : route ≠ []) : q.started route = passAt route 0 := by
  rw [QuestState.started, if_neg h, passAt, if_pos (Nat.zero_le _)]

theorem asked_passAt (route : Route) (n : Nat) : (passAt route n).Asked route n := by
  refine ⟨rfl, ?_⟩
  unfold passAt
  split
  next h => exact .inl ⟨rfl, h⟩
  next h => exact .inr ⟨rfl, Nat.le_of_not_le h⟩

theorem Asked.given (h : q.Asked route n) :
    q.given = if n < route.length then some n else none := by
  obtain ⟨rfl, h⟩ := h
  rcases h with ⟨hnext, -⟩ | ⟨hnext, hle⟩
  · simp [QuestState.given, hnext, Option.filter]
  · simp [QuestState.given, hnext, Nat.not_lt_of_le hle]

theorem Asked.isSome_next (h : q.Asked route n) (hlt : n < route.length) : q.next.isSome := by
  rcases h.next with ⟨hnext, -⟩ | ⟨-, hle⟩
  · rw [hnext]
    rfl
  · exact absurd hlt (Nat.not_lt_of_le hle)

theorem Asked.next_eq_none (h : q.Asked route n) (hlt : route.length < n) : q.next = none := by
  rcases h.next with ⟨-, hle⟩ | ⟨hnext, -⟩
  · exact absurd hlt (Nat.not_lt_of_le hle)
  · exact hnext

theorem Asked.turn (h : q.Asked route n) : q.turn.Asked route (n + 1) := by
  refine ⟨h.same, ?_⟩
  rw [QuestState.turn, h.given]
  by_cases hlt : n < route.length
  · exact .inl ⟨by rw [if_pos hlt]; rfl, hlt⟩
  · exact .inr ⟨by rw [if_neg hlt]; rfl, Nat.le_succ_of_le (Nat.le_of_not_lt hlt)⟩

theorem Asked.replaced (h : q.Asked route n) : (q.replaced route).Asked route n := by
  refine ⟨rfl, ?_⟩
  rcases h.next with ⟨hnext, hle⟩ | ⟨hnext, hle⟩
  · rw [QuestState.replaced, hnext]
    by_cases hlt : n < route.length
    · exact .inl ⟨by simp [Option.filter, hlt], hle⟩
    · exact .inr ⟨by simp [Option.filter, hlt], Nat.le_of_not_lt hlt⟩
  · exact .inr ⟨by simp [QuestState.replaced, hnext], hle⟩

theorem Asked.refreshed {q' : QuestState} {p : Prop} (h : q.Asked route n)
    (hq' : q.Refreshed q' p) : q'.Asked route n := by
  rcases hq' with rfl | ⟨rfl, -⟩
  · exact h
  · rw [h.same]
    exact h.replaced

theorem turn_passAt (route : Route) (n : Nat) : (passAt route n).turn = passAt route (n + 1) := by
  rw [QuestState.turn, (asked_passAt route n).given, passAt, passAt]
  by_cases h : n < route.length
  · rw [if_pos h, if_pos (Nat.succ_le_of_lt h)]
    rfl
  · rw [if_neg h, if_neg (fun hle => h (Nat.lt_of_succ_le hle))]
    rfl

end QuestState

namespace Area

def questState (a : Area) : QuestState := ⟨a.questRoute, a.pass⟩

variable (a : Area) (services : Services) (now : Instant)

theorem questState_checkQuests : (a.checkQuests services now).2.questState = a.questState := by
  unfold checkQuests
  split <;> rfl

theorem questState_purgeCaches : (a.purgeCaches now).2.questState = a.questState := by
  unfold purgeCaches
  split <;> rfl

theorem questState_startQuesting :
    (a.startQuesting services).2.questState = a.questState.started (a.startRoute services) := by
  unfold startQuesting questState QuestState.started
  dsimp only
  cases a.startRoute services with
  | nil => rfl
  | cons => rfl

theorem startQuesting_fst :
    (a.startQuesting services).1 = true ↔ a.startRoute services ≠ [] := by
  unfold startQuesting
  dsimp only
  cases a.startRoute services with
  | nil => simp
  | cons => simp

theorem startRoute_eq_nil (h : a.startRoute services = []) : a.questRoute = [] := by
  unfold startRoute at h
  split at h
  next hempty => simpa using (Bool.and_eq_true_iff.mp hempty).1
  next => exact h

theorem nextQuestStep_eq :
    a.nextQuestStep = (a.questState.given, { a with pass := a.questState.turn.next }) := by
  unfold nextQuestStep questState QuestState.turn QuestState.given
  cases hpass : a.pass with
  | none =>
    simp only [Option.filter_none, Option.map_none, Prod.mk.injEq, true_and]
    rw [← hpass]
  | some k =>
    by_cases hlt : k < a.questRoute.length
    · simp [Option.filter, hlt, Nat.not_le_of_lt hlt]
    · simp [Option.filter, hlt, Nat.le_of_not_lt hlt]

theorem questState_applyDefinition (d : Definition) :
    (a.applyDefinition d).2.questState =
      if a.questRoute != d.questRoute then a.questState.replaced d.questRoute
      else a.questState := by
  unfold applyDefinition
  dsimp only
  split <;> rfl

theorem mode_of_isSome {a : Area} (h : a.pass.isSome) : a.mode = .quest := if_pos h

theorem mode_of_eq_none {a : Area} (h : a.pass = none) : a.mode = .pokemon := by
  rw [Area.mode, h]
  rfl

/-- An area after a request looked at the gate of quest scanning, which starts when it is open. -/
def gated : Area :=
  if (a.checkQuests services now).1 then ((a.checkQuests services now).2.startQuesting services).2
  else (a.checkQuests services now).2

theorem samePlan_gated : SamePlan a (a.gated services now) := by
  have hcheck := a.samePlan_checkQuests services now
  have hstart := (a.checkQuests services now).2.samePlan_startQuesting services
  unfold gated
  split
  · exact ⟨hstart.id.trans hcheck.id, hstart.target.trans hcheck.target,
      hstart.route.trans hcheck.route⟩
  · exact hcheck

end Area

namespace Areas

def quests (as : Areas) (id : Int) : Option QuestState := (as.find? id).map (·.questState)

theorem quests_replace {as : Areas} {a b : Area} (ha : as.find? a.id = some a) (hid : b.id = a.id)
    (id : Int) :
    (as.replace b).quests id = if id = a.id then some b.questState else as.quests id := by
  rw [quests, find?_replace_of_find? ha hid]
  split <;> rfl

theorem quests_replace_of_eq {as : Areas} {a b : Area} (ha : as.find? a.id = some a)
    (hid : b.id = a.id) (hb : b.questState = a.questState) : (as.replace b).quests = as.quests := by
  funext id
  rw [quests_replace ha hid]
  split
  next h =>
    rw [h, hb, quests, ha]
    rfl
  next => rfl

theorem questState_renewed {as : Areas} {d : Definition} {q : QuestState}
    (hq : as.quests d.id = some q) :
    (as.renewed d).questState = if q.route != d.questRoute then q.replaced d.questRoute else q := by
  obtain ⟨a, ha, rfl⟩ := Option.map_eq_some_iff.mp hq
  have hrenewed : as.renewed d = (a.applyDefinition d).2 := by simp only [renewed, ha]
  rw [hrenewed]
  exact a.questState_applyDefinition d

theorem quests_applyOne (acc : Areas × List Int × List Int) (d : Definition) (id : Int) :
    (applyOne acc d).1.quests id =
      if id = d.id then some (acc.1.renewed d).questState else acc.1.quests id := by
  rw [quests, find?_applyOne]
  split <;> rfl

/-- The quest routes of the rows of an area that differ from the one that it has. -/
def otherRoutes (as : Areas) (rows : List AreaRecord) (id : Int) : List Route :=
  ((rows.filter (·.id = id)).map fun r => (Definition.lenient r).questRoute).filter fun route =>
    (as.quests id).any (·.route != route)

theorem mem_otherRoutes {as : Areas} {rows : List AreaRecord} {q : QuestState} {id : Int}
    (hq : as.quests id = some q) {route : Route} :
    route ∈ as.otherRoutes rows id ↔ ∃ r ∈ rows, r.id = id ∧
      (Definition.lenient r).questRoute = route ∧ (q.route != route) = true := by
  simp only [otherRoutes, hq, List.mem_filter, List.mem_map, decide_eq_true_eq, Option.any_some]
  constructor
  · rintro ⟨⟨r, ⟨hr, hid⟩, rfl⟩, hne⟩
    exact ⟨r, hr, hid, rfl, hne⟩
  · rintro ⟨r, hr, hid, rfl, hne⟩
    exact ⟨⟨r, ⟨hr, hid⟩, rfl⟩, hne⟩

/-- A definition without another quest route leaves the quest scanning of its area alone, or it
refreshes it, since a coordinate that is not a number differs from itself. -/
theorem refreshed_applyOne {acc : Areas × List Int × List Int} {d : Definition} {q q' : QuestState}
    {id : Int} {p : Prop} (hacc : acc.1.quests id = some q') (hrefreshed : q.Refreshed q' p)
    (hd : d.id = id → (q.route != d.questRoute) = true → d.questRoute = q.route ∧ p) :
    ∃ q', (applyOne acc d).1.quests id = some q' ∧ q.Refreshed q' p := by
  rw [quests_applyOne]
  split
  next h =>
    subst h
    refine ⟨_, rfl, ?_⟩
    rw [questState_renewed hacc, hrefreshed.route]
    split
    next hne =>
      obtain ⟨hsame, hp⟩ := hd rfl hne
      rw [hsame]
      exact hrefreshed.replaced hp
    next => exact hrefreshed
  next => exact ⟨q', hacc, hrefreshed⟩

theorem refreshed_apply {as : Areas} {rows : List AreaRecord} {q : QuestState} {id : Int}
    (hq : as.quests id = some q) (hrow : rows.any (·.id = id))
    (h : ∀ route ∈ as.otherRoutes rows id, route = q.route) :
    ∃ q', (as.apply (rows.map Definition.lenient)).2.quests id = some q' ∧
      q.Refreshed q' (as.otherRoutes rows id ≠ []) := by
  have hfold : ∃ q', ((rows.map Definition.lenient).foldl applyOne (as, [], [])).1.quests id =
      some q' ∧ q.Refreshed q' (as.otherRoutes rows id ≠ []) := by
    refine List.foldlRecOn (motive := fun acc : Areas × List Int × List Int =>
      ∃ q', acc.1.quests id = some q' ∧ q.Refreshed q' _) _ _ ⟨q, hq, .inl rfl⟩ ?_
    rintro acc ⟨q', hacc, hrefreshed⟩ d hd
    obtain ⟨r, hr, rfl⟩ := List.mem_map.mp hd
    refine refreshed_applyOne hacc hrefreshed fun hid hne => ?_
    have hmem := (mem_otherRoutes hq).mpr ⟨r, hr, hid, rfl, hne⟩
    exact ⟨h _ hmem, List.ne_nil_of_mem hmem⟩
  have hdefined : (rows.map Definition.lenient).any (·.id = id) := by
    rw [List.any_map]
    exact hrow
  unfold Areas.apply
  dsimp only
  rw [quests, find?_filter _ (fun id => (rows.map Definition.lenient).any (·.id = id)),
    if_pos hdefined]
  exact hfold

/-- The quest scanning of every area is in a sound state. -/
def QuestsSound (as : Areas) : Prop := ∀ id q, as.quests id = some q → q.Sound

theorem QuestsSound.register {as : Areas} (h : as.QuestsSound) (d : Definition) :
    (as.register d).QuestsSound := by
  intro id q hq
  rw [quests, find?_register] at hq
  split at hq
  · cases hq
    exact .idle _
  · exact h id q hq

theorem QuestsSound.applyOne {acc : Areas × List Int × List Int} (h : acc.1.QuestsSound)
    (d : Definition) : (applyOne acc d).1.QuestsSound := by
  intro id q hq
  rw [quests_applyOne] at hq
  split at hq
  · obtain rfl := Option.some.inj hq
    cases hold : acc.1.quests d.id with
    | none =>
      have hnone : acc.1.find? d.id = none := Option.map_eq_none_iff.mp hold
      simp only [renewed, hnone]
      exact .idle _
    | some q =>
      rw [questState_renewed hold]
      split
      · exact .replaced
      · exact h d.id q hold
  · exact h id q hq

theorem QuestsSound.apply {as : Areas} (h : as.QuestsSound) (ds : List Definition) :
    (as.apply ds).2.QuestsSound := by
  have hfold : (ds.foldl Areas.applyOne (as, [], [])).1.QuestsSound :=
    List.foldlRecOn (motive := fun acc : Areas × List Int × List Int => acc.1.QuestsSound)
      _ _ h fun _ hacc d _ => hacc.applyOne d
  intro id q hq
  unfold Areas.apply quests at hq
  dsimp only at hq
  rw [find?_filter _ (fun id => ds.any (·.id = id))] at hq
  split at hq
  · exact hfold id q hq
  · cases hq

end Areas

end ScanFleet
