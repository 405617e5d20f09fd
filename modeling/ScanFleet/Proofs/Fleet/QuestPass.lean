import ScanFleet.Proofs.Fleet.QuestStates
import ScanFleet.Proofs.Fleet.Refusals

/-! Quest passes.  From its start until the next one, or until the area gets another quest route, a
pass gives the requests for jobs that are put to the area the steps of the route, each one once and
in order, whoever asks.  After the last step the requests fall through to the workers' walks. -/

namespace ScanFleet

/-- A request for a job that is put to an area. -/
structure JobRequest (σ : Type) where
  /-- The fleet in which it is made. -/
  fleet : Fleet σ
  services : Services
  worker : String
  username : Option String
  host : Option String
  now : Instant
  area : Area

namespace JobRequest

variable {σ : Type} (r : JobRequest σ)

def answer : Except FleetError Job :=
  (r.fleet.nextJob r.services r.worker r.username r.host r.now).1

/-- The fleet after the worker was seen. -/
def seen : Fleet σ := r.fleet.touch r.worker r.host r.now

/-- Whether quest scanning starts because of the request. -/
def opensGate : Bool := (r.area.checkQuests r.services r.now).1

/-- The quest step that the request is given, if it is given one. -/
def questStep : Option Nat := r.seen.dueQuestStep r.services r.area r.now

/-- What the request gets when it falls through to the worker's walk. -/
def walkJob : Except FleetError Job :=
  (((r.seen.checkQuests r.services r.area r.now).nextQuestStep r.area.id).2.pokemonJob
    r.worker r.area r.now).1

/-- What request number `n` of a pass over a route gets: step `n`, if the route has one. -/
structure Gets (r : JobRequest σ) (route : Route) (n : Nat) : Prop where
  step : r.questStep = if n < route.length then some n else none
  scan : ∀ l, route[n]? = some l →
    r.answer = .ok (.scanQuest l r.fleet.settings.minLevel r.fleet.settings.maxLevel)
  walk : route.length ≤ n → r.answer = r.walkJob

end JobRequest

namespace Fleet

variable {σ : Type}

/-- The step of a running pass is on the quest route, so nobody is told otherwise. -/
theorem nextJob_ne_offQuestRoute (f : Fleet σ) (services : Services) (worker : String)
    (username host : Option String) (now : Instant) (area : Int) (step length : Nat) :
    (f.nextJob services worker username host now).1 ≠
      .error (.stepOutOfRange area "quest" step length) := by
  intro herror
  cases hjob : (f.touch worker host now).jobArea worker username now with
  | none =>
    rcases (nextJob_of_jobArea_eq_none hjob services).2 _ herror with ⟨name, he⟩ | he
    · cases he
    · cases he
  | some a =>
    obtain ⟨ha, hnext⟩ := nextJob_of_jobArea hjob services
    rw [hnext] at herror
    cases hgiven : (a.gated services now).questState.given with
    | some k =>
      have hlt := (QuestState.given_eq_some.mp hgiven).2
      obtain ⟨l, -, hlocation⟩ := Area.locationAt_ok .quest hlt
      rw [areaJob_of_given_eq_some services now ha worker hgiven, hlocation] at herror
      cases herror
    | none =>
      rw [areaJob_of_given_eq_none services now ha worker hgiven] at herror
      rcases pokemonJob_error herror with ⟨_, _, _, he⟩ | he
      · simp [Mode.text] at he
      · cases he

/-! ### Requests and what disturbs a pass -/

/-- The request that an event puts to an area, if it is one. -/
def request? (f : Fleet σ) (id : Int) : Event σ → Option (JobRequest σ)
  | .perform (.nextJob worker username host) services now =>
    (((f.touch worker host now).jobArea worker username now).filter (·.id = id)).map fun area =>
      { fleet := f, services, worker, username, host, now, area }
  | _ => none

/-- Whether an event starts quest scanning in an area, by order or through the gate. -/
def startsQuesting (f : Fleet σ) (id : Int) : Event σ → Bool
  | .perform (.startQuesting area) _ _ => area = id
  | e => (f.request? id e).any (·.opensGate)

variable [Store σ]

/-- The requests that a run puts to an area. -/
def requests (f : Fleet σ) (id : Int) : List (Event σ) → List (JobRequest σ)
  | [] => []
  | e :: events => (f.request? id e).toList ++ (f.after e).requests id events

/-- The quest routes that an event puts in the place of that of an area. -/
def replacements (f : Fleet σ) (id : Int) : Event σ → List Route
  | .perform (.rebuildQuestRoute area) services _ =>
    (if id = area then f.newRoute? services id else none).toList
  | .perform .rebuildDue services now =>
    (if id ∈ (f.rebuildCandidates services now).1 then f.newRoute? services id else none).toList
  | .perform .reloadAreas _ _ =>
    match Store.loadAreas f.store with
    | .error _ => []
    | .ok rows => f.areas.otherRoutes rows id
  | _ => []

/-- Whether an event removes an area or begins with it anew. -/
def resets (f : Fleet σ) (id : Int) : Event σ → Bool
  | .perform .bootstrap _ now => (f.startupRows now).any (·.id = id)
  | .perform .reloadAreas _ _ =>
    match Store.loadAreas f.store with
    | .error _ => false
    | .ok rows => !rows.any (·.id = id)
  | _ => false

/-- An event neither starts quest scanning in an area nor changes its quest route. -/
structure Undisturbed (id : Int) (f : Fleet σ) (e : Event σ) : Prop where
  notStarted : f.startsQuesting id e = false
  notReset : f.resets id e = false
  sameRoute : ∀ route ∈ f.replacements id e, (f.quests id).map (·.route) = some route

/-- An event starts quest scanning in an area with success. -/
inductive StartsPass (f : Fleet σ) (id : Int) : Event σ → Prop
  | order {services : Services} {now : Instant}
      (h : (f.startQuesting services id).1 = .ok true) :
      StartsPass f id (.perform (.startQuesting id) services now)
  | gate {e : Event σ} {r : JobRequest σ} (hr : f.request? id e = some r)
      (hopen : r.opensGate = true)
      (h : ((r.area.checkQuests r.services r.now).2.startQuesting r.services).1 = true) :
      StartsPass f id e

/-! ### One request -/

section

variable {f : Fleet σ} {id : Int} {e : Event σ} {r : JobRequest σ}

omit [Store σ] in
theorem request?_eq_some (h : f.request? id e = some r) :
    e = .perform (.nextJob r.worker r.username r.host) r.services r.now ∧ r.fleet = f ∧
      r.area.id = id ∧ r.seen.jobArea r.worker r.username r.now = some r.area := by
  unfold request? at h
  split at h
  · obtain ⟨area, harea, rfl⟩ := Option.map_eq_some_iff.mp h
    obtain ⟨hjob, hid⟩ := Option.filter_eq_some_iff.mp harea
    exact ⟨rfl, rfl, of_decide_eq_true hid, hjob⟩
  · cases h

omit [Store σ] in
/-- The area of a request after the gate was looked at decides what the request gets. -/
theorem gets_of_asked (h : f.request? id e = some r) {route : Route} {n : Nat}
    (hasked : (r.area.gated r.services r.now).questState.Asked route n) : r.Gets route n := by
  obtain ⟨-, -, -, hjob⟩ := request?_eq_some h
  have hfind : r.seen.areas.find? r.area.id = some r.area :=
    (nextJob_of_jobArea hjob r.services).1
  have hanswer : r.answer = (r.seen.areaJob r.services r.worker r.area r.now).1 :=
    congrArg Prod.fst (nextJob_of_jobArea hjob r.services).2
  have hgiven := hasked.given
  constructor
  case step => rw [JobRequest.questStep, dueQuestStep_eq r.services r.now hfind, hgiven]
  case scan =>
    intro l hl
    obtain ⟨hlt, -⟩ := List.getElem?_eq_some_iff.mp hl
    have hroute : (r.area.gated r.services r.now).questRoute = route := hasked.same
    have hlocation : (r.area.gated r.services r.now).locationAt .quest n = .ok l := by
      simp only [Area.locationAt, Area.routeOf, hroute, hl]
    rw [if_pos hlt] at hgiven
    rw [hanswer, areaJob_of_given_eq_some r.services r.now hfind r.worker hgiven, hlocation]
    rfl
  case walk =>
    intro hle
    rw [if_neg (Nat.not_lt_of_le hle)] at hgiven
    rw [hanswer, areaJob_of_given_eq_none r.services r.now hfind r.worker hgiven]
    rfl

theorem quests_of_request (h : f.request? id e = some r) :
    (f.after e).quests id = some (r.area.gated r.services r.now).questState.turn ∧
      f.quests id = some r.area.questState := by
  obtain ⟨rfl, rfl, rfl, hjob⟩ := request?_eq_some h
  obtain ⟨ha, hnext⟩ := nextJob_of_jobArea hjob r.services
  constructor
  · have hquests := quests_areaJob r.services r.now ha r.worker r.area.id
    rwa [if_pos rfl, ← hnext] at hquests
  · have hfind : r.fleet.areas.find? r.area.id = some r.area := ha
    rw [quests, Areas.quests, hfind]
    rfl

/-! ### One event -/

omit [Store σ] in
theorem gated_of_not_opensGate (h : r.opensGate = false) :
    (r.area.gated r.services r.now).questState = r.area.questState := by
  have hclosed : ¬ (r.area.checkQuests r.services r.now).1 = true := by
    rw [show (r.area.checkQuests r.services r.now).1 = false from h]
    exact Bool.false_ne_true
  rw [Area.gated, if_neg hclosed]
  exact r.area.questState_checkQuests r.services r.now

theorem quests_after_request {q : QuestState} (h : f.Undisturbed id e) (hq : f.quests id = some q)
    (hr : f.request? id e = some r) :
    (r.area.gated r.services r.now).questState = q ∧ (f.after e).quests id = some q.turn := by
  obtain ⟨hafter, hbefore⟩ := quests_of_request hr
  have hstart := h.notStarted
  obtain ⟨rfl, -⟩ := request?_eq_some hr
  simp only [startsQuesting, hr, Option.any_some] at hstart
  have hsame := gated_of_not_opensGate hstart
  rw [hq] at hbefore
  rw [hsame] at hafter ⊢
  rw [← Option.some.inj hbefore] at hafter ⊢
  exact ⟨rfl, hafter⟩

/-- No request is put to the area, so the route is replaced by itself, or nothing happens. -/
theorem refreshed_after {q : QuestState} (h : f.Undisturbed id e) (hq : f.quests id = some q)
    (hr : f.request? id e = none) :
    ∃ q', (f.after e).quests id = some q' ∧ q.Refreshed q' (f.replacements id e ≠ []) := by
  have hsame : ∀ route ∈ f.replacements id e, route = q.route := by
    intro route hroute
    have hsame := h.sameRoute route hroute
    rw [hq] at hsame
    exact (Option.some.inj hsame).symm
  cases e with
  | edit store => exact ⟨q, hq, .inl rfl⟩
  | perform op services now =>
    cases op with
    | bootstrap => exact ⟨q, (quests_bootstrap h.notReset).trans hq, .inl rfl⟩
    | nextJob worker username host =>
      refine ⟨q, ?_, .inl rfl⟩
      change (f.nextJob services worker username host now).2.quests id = some q
      cases hjob : (f.touch worker host now).jobArea worker username now with
      | none =>
        rw [(nextJob_of_jobArea_eq_none hjob services).1]
        exact hq
      | some a =>
        obtain ⟨ha, hnext⟩ := nextJob_of_jobArea hjob services
        have hne : id ≠ a.id := by
          rintro rfl
          simp [request?, hjob] at hr
        rw [hnext, quests_areaJob services now ha, if_neg hne]
        exact hq
    | startQuesting area =>
      have hne : area ≠ id := of_decide_eq_false h.notStarted
      refine ⟨q, ?_, .inl rfl⟩
      change (f.startQuesting services area).2.quests id = some q
      cases ha : f.areas.find? area with
      | none =>
        simp only [startQuesting, ha]
        exact hq
      | some a =>
        obtain rfl := Areas.id_of_find? ha
        rw [quests_startQuesting ha, if_neg hne.symm]
        exact hq
    | rebuildQuestRoute area =>
      refine ⟨_, ?_, QuestState.refreshed_replacedBy hsame⟩
      exact (f.quests_rebuildQuestRoute services area id).trans (by rw [hq]; rfl)
    | rebuildDue =>
      refine ⟨_, ?_, QuestState.refreshed_replacedBy hsame⟩
      exact (f.quests_rebuildDue services now id).trans (by rw [hq]; rfl)
    | reloadAreas =>
      have hkept := h.notReset
      unfold resets at hkept
      unfold replacements at hsame ⊢
      cases hrows : Store.loadAreas f.store with
      | error error =>
        refine ⟨q, ?_, .inl rfl⟩
        change (f.reloadAreas now).2.quests id = some q
        rw [reloadAreas_snd, hrows]
        exact hq
      | ok rows =>
        simp only [hrows, Bool.not_eq_false'] at hkept hsame ⊢
        exact refreshed_reloadAreas hq hrows hkept hsame now
    | _ =>
      refine ⟨q, (congrFun (f.quests_perform services now ?_ ?_) id).trans hq, .inl rfl⟩
      · exact fun hplan => hplan
      · nofun

/-! ### Runs -/

theorem requests_of_none (hr : f.request? id e = none) (events : List (Event σ)) :
    f.requests id (e :: events) = (f.after e).requests id events := by
  rw [requests, hr]
  rfl

theorem requests_of_some (hr : f.request? id e = some r) (events : List (Event σ)) :
    f.requests id (e :: events) = r :: (f.after e).requests id events := by
  rw [requests, hr]
  rfl

/-- What the first request of a run gets and what the others get. -/
theorem gets_cons {route : Route} {n : Nat} {events : List (Event σ)}
    (hfirst : ∀ r : JobRequest σ, f.request? id e = some r → r.Gets route n)
    (hrest : ∀ (i : Nat) (r : JobRequest σ), ((f.after e).requests id events)[i]? = some r →
      r.Gets route (n + (f.request? id e).toList.length + i)) :
    ∀ (i : Nat) (r : JobRequest σ), (f.requests id (e :: events))[i]? = some r →
      r.Gets route (n + i) := by
  intro i r hi
  cases hr : f.request? id e with
  | none =>
    rw [requests_of_none hr] at hi
    simpa [hr] using hrest i r hi
  | some first =>
    rw [requests_of_some hr] at hi
    cases i with
    | zero =>
      obtain rfl : first = r := Option.some.inj hi
      exact hfirst first hr
    | succ i =>
      have hgets := hrest i r hi
      rw [hr] at hgets
      rwa [Nat.add_comm i, ← Nat.add_assoc]

/-- While nothing disturbs a pass, the requests get its steps in order, and then none. -/
theorem run_asked {q : QuestState} {route : Route} {n : Nat} {events : List (Event σ)}
    (h : Along (Undisturbed id) f events) (hq : f.quests id = some q)
    (hasked : q.Asked route n) :
    (∀ (i : Nat) (r : JobRequest σ), (f.requests id events)[i]? = some r → r.Gets route (n + i)) ∧
      ∃ q', (f.run events).quests id = some q' ∧
        q'.Asked route (n + (f.requests id events).length) := by
  induction events generalizing f q n with
  | nil => exact ⟨by simp [requests], q, hq, hasked⟩
  | cons e events ih =>
    obtain ⟨he, hrest⟩ := h
    cases hr : f.request? id e with
    | none =>
      obtain ⟨p, hp, hrefreshed⟩ := refreshed_after he hq hr
      obtain ⟨hgets, q', hq', hasked'⟩ := ih hrest hp (hasked.refreshed hrefreshed)
      refine ⟨gets_cons (fun r hr' => ?_) (by rw [hr]; exact hgets), q', hq', ?_⟩
      · rw [hr] at hr'
        cases hr'
      · rwa [requests_of_none hr]
    | some r =>
      obtain ⟨-, hafter⟩ := quests_after_request he hq hr
      obtain ⟨hgets, q', hq', hasked'⟩ := ih hrest hafter hasked.turn
      refine ⟨gets_cons (fun r' hr' => gets_of_asked hr' ?_) (by rw [hr]; exact hgets), q', hq', ?_⟩
      · rw [(quests_after_request he hq hr').1]
        exact hasked
      · rw [requests_of_some hr, List.length_cons, Nat.add_comm _ 1, ← Nat.add_assoc]
        exact hasked'

/-- When the route is not replaced either, the pass ends with the request after its last step. -/
theorem run_passAt {route : Route} {n : Nat} {events : List (Event σ)}
    (h : Along (Undisturbed id) f events)
    (hkept : Along (fun f e => f.replacements id e = []) f events)
    (hq : f.quests id = some (.passAt route n)) :
    (f.run events).quests id = some (.passAt route (n + (f.requests id events).length)) := by
  induction events generalizing f n with
  | nil => exact hq
  | cons e events ih =>
    obtain ⟨he, hrest⟩ := h
    obtain ⟨hnone, hkept⟩ := hkept
    cases hr : f.request? id e with
    | none =>
      obtain ⟨q, hafter, hrefreshed⟩ := refreshed_after he hq hr
      obtain rfl := hrefreshed.resolve_right fun hreplaced => hreplaced.2 hnone
      rw [requests_of_none hr]
      exact ih hrest hkept hafter
    | some r =>
      have hafter := (quests_after_request he hq hr).2
      rw [QuestState.turn_passAt] at hafter
      rw [requests_of_some hr, List.length_cons, Nat.add_comm _ 1, ← Nat.add_assoc]
      exact ih hrest hkept hafter

/-! ### Starts -/

theorem quests_of_order {services : Services} (now : Instant)
    (h : (f.startQuesting services id).1 = .ok true) :
    ∃ route, route ≠ [] ∧
      (f.after (.perform (.startQuesting id) services now)).quests id = some (.passAt route 0) := by
  unfold after perform
  cases ha : f.areas.find? id with
  | none =>
    simp only [startQuesting, ha] at h
    cases h
  | some a =>
    obtain rfl := Areas.id_of_find? ha
    simp only [startQuesting, ha, Except.ok.injEq] at h
    have hroute := (a.startQuesting_fst services).mp h
    refine ⟨a.startRoute services, hroute, ?_⟩
    rw [quests_startQuesting ha, if_pos rfl, QuestState.started_of_ne_nil _ hroute]

theorem quests_of_gate (hr : f.request? id e = some r) (hopen : r.opensGate = true)
    (h : ((r.area.checkQuests r.services r.now).2.startQuesting r.services).1 = true) :
    ∃ route, route ≠ [] ∧ (f.after e).quests id = some (.passAt route 1) ∧ r.Gets route 0 := by
  have hroute := ((r.area.checkQuests r.services r.now).2.startQuesting_fst r.services).mp h
  have hgated : (r.area.gated r.services r.now).questState =
      .passAt ((r.area.checkQuests r.services r.now).2.startRoute r.services) 0 := by
    have hfires : (r.area.checkQuests r.services r.now).1 = true := hopen
    rw [Area.gated, if_pos hfires, Area.questState_startQuesting,
      QuestState.started_of_ne_nil _ hroute]
  refine ⟨_, hroute, ?_, gets_of_asked hr (hgated ▸ QuestState.asked_passAt _ 0)⟩
  rw [(quests_of_request hr).1, hgated, QuestState.turn_passAt]

/-- After a start the pass is at its first step, or behind it if a request opened the gate. -/
theorem StartsPass.quests (h : f.StartsPass id e) :
    ∃ route, route ≠ [] ∧
      (f.after e).quests id = some (.passAt route (f.request? id e).toList.length) ∧
      ∀ r, f.request? id e = some r → r.Gets route 0 := by
  cases h with
  | order h =>
    obtain ⟨route, hne, hquests⟩ := quests_of_order _ h
    exact ⟨route, hne, hquests, fun r hr => nomatch (request?_eq_some hr).1⟩
  | gate hr hopen h =>
    obtain ⟨route, hne, hquests, hgets⟩ := quests_of_gate hr hopen h
    refine ⟨route, hne, by rw [hr]; exact hquests, fun r hr' => ?_⟩
    rw [hr] at hr'
    cases hr'
    exact hgets

end

/-! ### Whole passes -/

omit [Store σ] in
theorem filterMap_questStep {requests : List (JobRequest σ)} {route : Route} {n : Nat}
    (h : ∀ (i : Nat) (r : JobRequest σ), requests[i]? = some r → r.Gets route (n + i)) :
    requests.filterMap (·.questStep) =
      List.range' n (min requests.length (route.length - n)) := by
  induction requests generalizing n with
  | nil => simp
  | cons r requests ih =>
    have hrest := ih (n := n + 1) fun i r hi => by
      have hgets := h (i + 1) r hi
      rwa [Nat.add_comm i, ← Nat.add_assoc] at hgets
    have hfirst := (h 0 r rfl).step
    rw [Nat.add_zero] at hfirst
    by_cases hlt : n < route.length
    · have hmin : min (requests.length + 1) (route.length - n) =
          min requests.length (route.length - (n + 1)) + 1 := by omega
      rw [if_pos hlt] at hfirst
      rw [List.filterMap_cons_some hfirst, hrest, List.length_cons, hmin, List.range'_succ]
    · have hnone : route.length - n = 0 ∧ route.length - (n + 1) = 0 := by omega
      rw [if_neg hlt] at hfirst
      rw [List.filterMap_cons_none hfirst, hrest, hnone.1, hnone.2, Nat.min_zero, Nat.min_zero]
      rfl

/-- What the requests since the start of a pass over a route got, and the area after them.  The
pass ends with the first request after its last step, or earlier if a rebuild replaced the route by
an equal one. -/
structure PassesOver (id : Int) (route : Route) (requests : List (JobRequest σ)) (kept : Prop)
    (g : Fleet σ) : Prop where
  steps : requests.filterMap (·.questStep) = List.range (min requests.length route.length)
  gets : ∀ (i : Nat) (r : JobRequest σ), requests[i]? = some r → r.Gets route i
  area : ∃ a, g.areas.find? id = some a ∧ a.questRoute = route ∧
    (requests.length < route.length → a.mode = .quest) ∧
    (requests.length = route.length → kept → a.mode = .quest) ∧
    (route.length < requests.length → a.mode = .pokemon)

theorem StartsPass.passesOver {f : Fleet σ} {id : Int} {e : Event σ} (h : f.StartsPass id e)
    {events : List (Event σ)} (hevents : Along (Undisturbed id) (f.after e) events) :
    ∃ route, route ≠ [] ∧ ((f.after e).quests id).map (·.route) = some route ∧
      PassesOver id route (f.requests id (e :: events))
        (Along (fun f e => f.replacements id e = []) (f.after e) events)
        ((f.after e).run events) := by
  obtain ⟨route, hne, hstart, hfirst⟩ := h.quests
  obtain ⟨hrest, q, hq, hasked⟩ := run_asked hevents hstart (QuestState.asked_passAt _ _)
  have hgets : ∀ (i : Nat) (r : JobRequest σ), (f.requests id (e :: events))[i]? = some r →
      r.Gets route (0 + i) := gets_cons hfirst (by simpa using hrest)
  have hlength : (f.requests id (e :: events)).length =
      (f.request? id e).toList.length + ((f.after e).requests id events).length :=
    List.length_append
  rw [← hlength] at hasked
  obtain ⟨a, ha, rfl⟩ := Option.map_eq_some_iff.mp hq
  have hsteps := filterMap_questStep hgets
  simp only [Nat.zero_add] at hgets
  refine ⟨route, hne, by rw [hstart]; rfl, ?_, hgets, a, ha, hasked.same, ?_, ?_, ?_⟩
  · rw [hsteps, List.range_eq_range']
    rfl
  · exact fun hlt => Area.mode_of_isSome (hasked.isSome_next hlt)
  · intro heq hkept
    have hpass := run_passAt hevents hkept hstart
    rw [← hlength, hq, Option.some.injEq] at hpass
    have hnext : a.pass = some _ := (congrArg QuestState.next hpass).trans
      (if_pos (Nat.le_of_eq heq))
    exact Area.mode_of_isSome (by rw [hnext]; rfl)
  · exact fun hlt => Area.mode_of_eq_none (hasked.next_eq_none hlt)

/-! ### In every state -/

/-- In every state a start of quest scanning begins a pass that hands out its route, and a running
pass has a route that its next step is on, or just behind. -/
theorem run_questPass (settings : Settings) (store : σ) (before : List (Event σ)) :
    let f := (Fleet.new settings store).run before
    (∀ (id : Int) (e : Event σ) (events : List (Event σ)), f.StartsPass id e →
      Along (Undisturbed id) (f.after e) events →
      ∃ route, route ≠ [] ∧ ((f.after e).quests id).map (·.route) = some route ∧
        PassesOver id route (f.requests id (e :: events))
          (Along (fun f e => f.replacements id e = []) (f.after e) events)
          ((f.after e).run events)) ∧
    (∀ a ∈ f.areas.list, ∀ step, a.pass = some step →
      a.questRoute ≠ [] ∧ step ≤ a.questRoute.length) ∧
    ∀ (services : Services) (worker : String) (username host : Option String) (now : Instant)
      (area : Int) (step length : Nat), (f.nextJob services worker username host now).1 ≠
        .error (.stepOutOfRange area "quest" step length) := by
  intro f
  refine ⟨fun id e events h hevents => h.passesOver hevents, fun a ha step hstep => ?_,
    f.nextJob_ne_offQuestRoute⟩
  have hordered := (ordered_new settings store).run (sound_new settings store) before
  have hsound := (questsSound_new settings store).run before
  have hfind : f.areas.find? a.id = some a :=
    (Keyed.find?_eq_some_iff (k := Area.id) (hordered.areas.imp Int.ne_of_lt)).mpr ⟨ha, rfl⟩
  have hquests : f.areas.quests a.id = some a.questState := by
    rw [Areas.quests, hfind]
    rfl
  exact hsound a.id _ hquests step hstep

/-- The small store, in which the area has a quest route of two steps. -/
def questStore : Tables :=
  { smallStore with areas := smallStore.areas.map ({ · with questRoute := some "5 5,6 6" }) }

/-- Two workers that share an account ask three times for a job. -/
def questRequests : List (Event Tables) :=
  [.perform (.nextJob "w1" none none) .none 0, .perform (.nextJob "w2" (some "ada") none) .none 0,
    .perform (.nextJob "w1" none none) .none 0]

theorem run_questPass_twoWorkers :
    let before : List (Event Tables) := [.bootstrap, .initWorker "w1" none, .initWorker "w2" none,
      .assignAccount "w1" none].map fun op => .perform op .none 0
    let f := (Fleet.new smallSettings questStore).run before
    let start : Event Tables := .perform (.startQuesting 1) .none 0
    f.StartsPass 1 start ∧ Along (Undisturbed 1) (f.after start) questRequests ∧
      (f.requests 1 (start :: questRequests)).map (·.questStep) = [some 0, some 1, none] ∧
      ∃ route, route ≠ [] ∧ ((f.after start).quests 1).map (·.route) = some route ∧
        PassesOver 1 route (f.requests 1 (start :: questRequests))
          (Along (fun f e => f.replacements 1 e = []) (f.after start) questRequests)
          ((f.after start).run questRequests) := by
  intro before f start
  have hstart : f.StartsPass 1 start := .order (by decide +kernel)
  have hcalm : Along (fun f e => f.startsQuesting 1 e = false) (f.after start) questRequests := by
    decide +kernel
  obtain ⟨hfirst, hsecond, hthird, -⟩ := hcalm
  have hevents : Along (Undisturbed 1) (f.after start) questRequests :=
    ⟨⟨hfirst, rfl, nofun⟩, ⟨hsecond, rfl, nofun⟩, ⟨hthird, rfl, nofun⟩, trivial⟩
  exact ⟨hstart, hevents, by decide +kernel,
    (run_questPass smallSettings questStore before).1 1 start questRequests hstart hevents⟩

end Fleet

end ScanFleet
