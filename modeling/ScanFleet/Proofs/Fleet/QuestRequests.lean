import ScanFleet.Proofs.Fleet.QuestStates

/-! Starts of quest scanning and rebuilds of quest routes, whatever the calculator and the notifier
answer.  Both ask the calculator the same question, and take its answer only if that is a route with
steps.  Nothing but what the request is about changes in the area, and nothing else in the fleet. -/

namespace ScanFleet

/-- `b` is the area `a` after a start of quest scanning which answered `started`. -/
structure Prepared (services : Services) (a : Area) (started : Bool) (b : Area) : Prop where
  /-- Only an area without a quest route takes one, and it takes one if it can. -/
  questRoute : a.questRoute = [] ∧ Calculated services a b.questRoute ∨
    b.questRoute = a.questRoute ∧ (a.questRoute = [] → ∀ route, ¬ Calculated services a route)
  answer : started = true ↔ b.questRoute ≠ []
  pass : b.pass = if started then some 0 else a.pass
  pokestops : b.withCaches.pokestops.entries = []
  encounters : b.withCaches.encounters = a.withCaches.encounters
  rest : b = { a with questRoute := b.questRoute, pass := b.pass, caches := b.caches }

/-- `b` is the area `a` with another quest route.  A pass goes on if its next step is on that. -/
structure Rerouted (a : Area) (route : Route) (b : Area) : Prop where
  questRoute : b.questRoute = route
  pass : ∀ k, b.pass = some k ↔ a.pass = some k ∧ k < route.length
  rest : b = { a with questRoute := b.questRoute, pass := b.pass }

variable {services : Services} {a : Area}

namespace Area

/-- A start asks for a route as a rebuild does, when the area has none. -/
theorem startRoute_of_nil (h : a.questRoute = []) :
    a.startRoute services = (Fleet.newQuestRoute services a).toOption.getD [] := by
  unfold startRoute Fleet.newQuestRoute
  rw [h]
  cases services.calculate? with
  | none => split <;> rfl
  | some calculate =>
    cases a.fence.isEmpty with
    | true => rfl
    | false =>
      cases hanswer : calculate a.name a.fence.closed with
      | error e => simp [hanswer, Except.toOption]
      | ok route => cases route <;> simp [hanswer, Except.toOption]

theorem startRoute_cases (a : Area) (services : Services) :
    a.questRoute = [] ∧ Calculated services a (a.startRoute services) ∨
      a.startRoute services = a.questRoute ∧
        (a.questRoute = [] → ∀ route, ¬ Calculated services a route) := by
  by_cases hnil : a.questRoute = []
  · rw [startRoute_of_nil hnil]
    cases hnew : Fleet.newQuestRoute services a with
    | ok route => exact .inl ⟨hnil, Fleet.newQuestRoute_eq_ok.mp hnew⟩
    | error e =>
      refine .inr ⟨hnil.symm, fun _ route hroute => ?_⟩
      rw [Fleet.newQuestRoute_eq_ok.mpr hroute] at hnew
      cases hnew
  · exact .inr ⟨a.startRoute_of_ne_nil hnil services, fun h => absurd h hnil⟩

theorem prepared_startQuesting (a : Area) (services : Services) :
    Prepared services a (a.startQuesting services).1 (a.startQuesting services).2 := by
  have hroute := a.startRoute_cases services
  unfold startQuesting
  dsimp only
  cases hstart : a.startRoute services with
  | nil =>
    rw [hstart] at hroute
    exact ⟨hroute, by simp, rfl, rfl, rfl, rfl⟩
  | cons l ls =>
    rw [hstart] at hroute
    exact ⟨hroute, by simp, rfl, rfl, rfl, rfl⟩

theorem startQuesting_congr {others : Services} (h : others.calculate? = services.calculate?)
    (a : Area) : a.startQuesting others = a.startQuesting services := by
  unfold startQuesting startRoute
  rw [h]

theorem rerouted_setQuestRoute (a : Area) (route : Route) :
    Rerouted a route (a.setQuestRoute route) :=
  ⟨rfl, fun k => by simp [setQuestRoute, Option.filter_eq_some_iff], rfl⟩

end Area

namespace Fleet

variable {σ : Type} {f : Fleet σ}

theorem startQuesting_eq (ha : f.areas.find? a.id = some a) (services : Services) :
    f.startQuesting services a.id = (.ok (a.startQuesting services).1,
      { f with areas := f.areas.replace (a.startQuesting services).2 }.ask
        (a.startCalls services)) := by
  rw [startQuesting, ha]

theorem startQuesting_congr (ha : f.areas.find? a.id = some a) {others : Services}
    (h : others.calculate? = services.calculate?) :
    (f.startQuesting others a.id).1 = (f.startQuesting services a.id).1 ∧
      (f.startQuesting others a.id).2.forgetCalls =
        (f.startQuesting services a.id).2.forgetCalls := by
  rw [startQuesting_eq ha, startQuesting_eq ha, Area.startQuesting_congr h]
  exact ⟨rfl, rfl⟩

variable [Store σ]

/-- Whatever the services answer, a start of quest scanning answers whether the area has a quest
route then, and takes one that was calculated only if it had none; what the notifier answers makes
no difference.  A rebuild that fails leaves the fleet as it was, apart from the question asked, and
one that succeeds gives the area the route that was calculated. -/
theorem quest_requests_exact (f : Fleet σ) (services : Services) {a : Area}
    (ha : f.areas.find? a.id = some a) :
    (∃ started b, f.startQuesting services a.id =
        (.ok started, { f with areas := f.areas.replace b }.ask (a.startCalls services)) ∧
      (f.areas.replace b).find? a.id = some b ∧ Prepared services a started b) ∧
    (∀ others : Services, others.calculate? = services.calculate? →
      (f.startQuesting others a.id).1 = (f.startQuesting services a.id).1 ∧
        (f.startQuesting others a.id).2.forgetCalls =
          (f.startQuesting services a.id).2.forgetCalls) ∧
    ((∃ e, f.rebuildQuestRoute services a.id =
          (.error e, f.ask (newQuestRouteCalls services a)) ∧
        ∀ route, ¬ Calculated services a route) ∨
      ∃ route b, f.rebuildQuestRoute services a.id =
          (.ok route, { f with areas := f.areas.replace b }.persist (.questRoute a.id route)
            |>.ask (newQuestRouteCalls services a)) ∧
        (f.areas.replace b).find? a.id = some b ∧ Calculated services a route ∧
        Rerouted a route b) := by
  refine ⟨?_, fun others h => startQuesting_congr ha h, ?_⟩
  · refine ⟨_, _, startQuesting_eq ha services, ?_, a.prepared_startQuesting services⟩
    rw [Areas.find?_replace_of_find? ha (a.samePlan_startQuesting services).id, if_pos rfl]
  · rw [rebuildQuestRoute, ha]
    dsimp only
    cases hnew : newQuestRoute services a with
    | error e =>
      refine .inl ⟨e, rfl, fun route hroute => ?_⟩
      rw [newQuestRoute_eq_ok.mpr hroute] at hnew
      cases hnew
    | ok route =>
      refine .inr ⟨route, a.setQuestRoute route, rfl, ?_, newQuestRoute_eq_ok.mp hnew,
        a.rerouted_setQuestRoute route⟩
      rw [Areas.find?_replace_of_find? ha (a.samePlan_setQuestRoute route).id, if_pos rfl]

/-- An area with a fence and without a quest route, in the middle of a pass. -/
def fencedArea : Area :=
  { (default : Area) with
    id := 1, name := "A", fence := ⟨[⟨0, 0⟩, ⟨0, 1⟩, ⟨1, 1⟩]⟩, pass := some 1 }

def fenced : Fleet Tables := { Fleet.new smallSettings fencedStore with areas := ⟨[fencedArea]⟩ }

theorem quest_requests_exact_fenced :
    fenced.areas.find? fencedArea.id = some fencedArea ∧
    (∃ started b, fenced.startQuesting planner fencedArea.id = (.ok started,
        { fenced with areas := fenced.areas.replace b }.ask (fencedArea.startCalls planner)) ∧
      (fenced.areas.replace b).find? fencedArea.id = some b ∧
      Prepared planner fencedArea started b) ∧
    (∀ others : Services, others.calculate? = planner.calculate? →
      (fenced.startQuesting others fencedArea.id).1 =
          (fenced.startQuesting planner fencedArea.id).1 ∧
        (fenced.startQuesting others fencedArea.id).2.forgetCalls =
          (fenced.startQuesting planner fencedArea.id).2.forgetCalls) ∧
    ((∃ e, fenced.rebuildQuestRoute planner fencedArea.id =
          (.error e, fenced.ask (newQuestRouteCalls planner fencedArea)) ∧
        ∀ route, ¬ Calculated planner fencedArea route) ∨
      ∃ route b, fenced.rebuildQuestRoute planner fencedArea.id =
          (.ok route, { fenced with areas := fenced.areas.replace b }.persist
              (.questRoute fencedArea.id route)
            |>.ask (newQuestRouteCalls planner fencedArea)) ∧
        (fenced.areas.replace b).find? fencedArea.id = some b ∧
        Calculated planner fencedArea route ∧ Rerouted fencedArea route b) :=
  ⟨rfl, quest_requests_exact fenced planner rfl⟩

example : (fenced.startQuesting planner 1).1 = .ok true ∧
    (fenced.startQuesting .none 1).1 = .ok false := ⟨rfl, rfl⟩

end Fleet

end ScanFleet
