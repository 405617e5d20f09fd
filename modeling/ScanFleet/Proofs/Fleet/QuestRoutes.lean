import ScanFleet.Proofs.Fleet.Bookkeeping

/-! Where the quest routes of a fleet come from.  They are loaded with their areas, or a rebuild
makes one and stores it, or a start of quest scanning makes one that is not stored.  Nothing else
changes the atlas. -/

namespace ScanFleet

open Relation

namespace Atlas

/-- An area without a quest route is given one that its row does not get. -/
inductive Improvises : Atlas → Atlas → Prop
  | intro {t : Atlas} {id : Int} {c : Chart} {route : Route} (hc : t.chart? id = some c)
      (hempty : c.questRoute = []) (hroute : route ≠ []) : Improvises t (t.improvise id c route)

/-- An area and its row are given a quest route. -/
inductive Rebuilds : Atlas → Atlas → Prop
  | intro {t : Atlas} {id : Int} {c : Chart} {route : Route} (hc : t.chart? id = some c)
      (hroute : route ≠ []) : Rebuilds t (t.rebuild id c route)

theorem improvise_self {t : Atlas} {id : Int} {c : Chart} (hc : t.chart? id = some c) :
    t.improvise id c c.questRoute = t := by
  unfold improvise
  rw [show some { c with questRoute := c.questRoute } = t.chart? id from hc.symm,
    Function.update_eq_self]

end Atlas

/-- A start of quest scanning finds no other route than the one there is. -/
theorem Area.startRoute_of_ne_nil (a : Area) (h : a.questRoute ≠ []) (services : Services) :
    a.startRoute services = a.questRoute := by
  unfold startRoute
  rw [List.isEmpty_eq_false_iff.mpr h]
  rfl

/-- There is a calculator, and it finds a route for the closed fence of `a`. -/
structure Calculated (services : Services) (a : Area) (route : Route) : Prop where
  fence : a.fence.isEmpty = false
  answer : ∃ calculate, services.calculate? = some calculate ∧
    calculate a.name a.fence.closed = .ok route
  steps : route ≠ []

namespace Fleet

theorem newQuestRoute_eq_ok {services : Services} {a : Area} {route : Route} :
    newQuestRoute services a = .ok route ↔ Calculated services a route := by
  constructor
  · intro h
    unfold newQuestRoute at h
    split at h
    next => cases h
    next calculate hcalculate =>
      split at h
      next => cases h
      next hfence =>
        split at h
        next => cases h
        next => cases h
        next hsteps hanswer =>
          cases h
          exact ⟨Bool.eq_false_iff.mpr hfence, ⟨calculate, hcalculate, hanswer⟩, hsteps⟩
  · rintro ⟨hfence, ⟨calculate, hcalculate, hanswer⟩, hsteps⟩
    obtain ⟨l, ls, rfl⟩ := List.exists_cons_of_ne_nil hsteps
    simp [newQuestRoute, hcalculate, hfence, hanswer]

section Operations

variable (f : Fleet Tables) (services : Services) (now : Instant)

/-! ### Starts of quest scanning -/

theorem improvises_startQuesting (area : Int) :
    ReflGen Atlas.Improvises f.atlas (f.startQuesting services area).2.atlas := by
  unfold startQuesting
  split
  next => exact .refl
  next a ha =>
    have hid := Areas.id_of_find? ha
    subst hid
    have hchart : f.atlas.chart? a.id = some a.chart := Areas.chart?_of_find? ha
    have hstart : ({ f with areas := f.areas.replace (a.startQuesting services).2 }.ask
        (a.startCalls services)).atlas =
          f.atlas.improvise a.id a.chart (a.startRoute services) := by
      unfold atlas Atlas.improvise
      rw [← a.chart_startQuesting services,
        ← Areas.chart?_replace ha (a.samePlan_startQuesting services).id]
      rfl
    dsimp only
    rw [hstart]
    -- A start that finds no route, or the one there is, leaves the chart as it was.
    by_cases hsame : a.startRoute services = a.questRoute
    · have hself := Atlas.improvise_self hchart
      change ReflGen _ f.atlas (f.atlas.improvise a.id a.chart (a.startRoute services))
      rw [hsame, show a.questRoute = a.chart.questRoute from rfl, hself]
    · have hempty : a.questRoute = [] := by
        by_contra hne
        exact hsame (a.startRoute_of_ne_nil hne services)
      exact .single (.intro hchart hempty (hempty ▸ hsame))

theorem improvises_checkQuests {a : Area} (ha : f.areas.find? a.id = some a) :
    ReflGen Atlas.Improvises f.atlas (f.checkQuests services a now).atlas := by
  have hcheck : ({ f with areas := f.areas.replace (a.checkQuests services now).2 }.ask
      a.checkCalls).atlas = f.atlas :=
    f.atlas_replace ha (a.samePlan_checkQuests services now).id (a.chart_checkQuests services now)
  unfold checkQuests
  dsimp only
  split
  · rw [← hcheck]
    exact improvises_startQuesting _ services a.id
  · exact hcheck ▸ .refl

theorem atlas_nextQuestStep (area : Int) : (f.nextQuestStep area).2.atlas = f.atlas := by
  unfold nextQuestStep
  split
  next => rfl
  next a ha =>
    have hid := Areas.id_of_find? ha
    subst hid
    exact f.atlas_replace ha a.samePlan_nextQuestStep.id a.chart_nextQuestStep

theorem atlas_pokemonJob (worker : String) (a : Area) :
    (f.pokemonJob worker a now).2.atlas = f.atlas := by
  have hcut : (if f.hasWalk worker then f else (f.recalculate a.id now).2).atlas = f.atlas := by
    split
    · rfl
    · exact f.atlas_recalculate a.id now
  unfold pokemonJob
  extract_lets g
  split
  · exact hcut
  · exact hcut

theorem improvises_areaJob (worker : String) {a : Area} (ha : f.areas.find? a.id = some a) :
    ReflGen Atlas.Improvises f.atlas (f.areaJob services worker a now).2.atlas := by
  have hcheck := f.improvises_checkQuests services now ha
  have hstep := (f.checkQuests services a now).atlas_nextQuestStep a.id
  unfold areaJob
  dsimp only
  split
  next hn =>
    rw [hn] at hstep
    rwa [hstep]
  next hn =>
    rw [hn] at hstep
    rwa [atlas_pokemonJob, hstep]

theorem improvises_nextJob (worker : String) (username host : Option String) :
    ReflGen Atlas.Improvises f.atlas (f.nextJob services worker username host now).2.atlas := by
  unfold nextJob
  dsimp only
  split
  · exact .refl
  · split
    · exact .refl
    · exact .refl
    · split
      · exact .refl
      next a ha =>
        obtain ⟨-, -, -, hfind⟩ := find?_boundArea ha
        exact improvises_areaJob (f.touch worker host now) services now worker hfind

/-! ### Rebuilds -/

theorem atlas_persist_questRoute (area : Int) (route : Route) :
    (f.persist (.questRoute area route)).atlas = { f.atlas with
      rows := if f.store.readOnly then f.store.areas else f.store.areas.map fun r =>
        if r.id = area then { r with questRoute := some (Route.text route) } else r } := by
  unfold atlas
  rw [store_persist]
  by_cases h : f.store.readOnly
  · rw [if_pos h, if_pos h]
    rfl
  · rw [if_neg h, if_neg h, Tables.readOnly_apply]
    rfl

theorem rebuilds_rebuildQuestRoute (area : Int) :
    ReflGen Atlas.Rebuilds f.atlas (f.rebuildQuestRoute services area).2.atlas := by
  unfold rebuildQuestRoute
  split
  next => exact .refl
  next a ha =>
    have hid := Areas.id_of_find? ha
    subst hid
    have hchart : f.atlas.chart? a.id = some a.chart := Areas.chart?_of_find? ha
    dsimp only
    split
    next => exact .refl
    next route hroute =>
      have hstep : ({ f.ask (newQuestRouteCalls services a) with
          areas := f.areas.replace (a.setQuestRoute route) }.persist
            (.questRoute a.id route)).atlas = f.atlas.rebuild a.id a.chart route := by
        have hcharts := Areas.chart?_replace (b := a.setQuestRoute route) ha
          (a.samePlan_setQuestRoute route).id
        rw [atlas_persist_questRoute]
        unfold Atlas.rebuild Atlas.improvise atlas
        dsimp only
        rw [hcharts]
        rfl
      exact hstep ▸ .single (.intro hchart (newQuestRoute_eq_ok.mp hroute).steps)

theorem rebuilds_rebuildDue :
    ReflTransGen Atlas.Rebuilds f.atlas (f.rebuildDue services now).2.atlas := by
  refine List.foldlRecOn (motive := fun acc : Nat × Fleet Tables =>
    ReflTransGen Atlas.Rebuilds f.atlas acc.2.atlas) _ _ .refl ?_
  intro acc hacc area _
  have h := hacc.trans (acc.2.rebuilds_rebuildQuestRoute services area).to_reflTransGen
  unfold rebuildCounting
  split
  next hr => rwa [hr] at h
  next hr => rwa [hr] at h

/-! ### Accounts -/

theorem atlas_importAccounts (hw : f.store.readOnly = false) (accounts : List NewAccount) :
    (f.importAccounts accounts).2.atlas = f.atlas := by
  have hkept := List.foldlRecOn (motive := fun acc : Nat × Tables =>
      acc.2.areas = f.store.areas ∧ acc.2.readOnly = f.store.readOnly) accounts Tables.addAccount
    (b := (0, f.store)) ⟨rfl, rfl⟩ fun acc hacc n _ => by
      unfold Tables.addAccount
      dsimp only
      split <;> exact hacc
  rw [importAccounts_tables hw]
  unfold atlas refill Tables.insertAccounts
  rw [hw]
  dsimp only
  rw [if_neg (by decide), hkept.1, hkept.2, hw]

theorem atlas_bootstrapAccounts : (f.bootstrapAccounts now).atlas = f.atlas := by
  have haccounts : f.bootstrapAccounts now = f.refill (f.store.releaseAll now).2 := rfl
  rw [haccounts]
  unfold atlas refill Tables.releaseAll
  split <;> rfl

end Operations

variable {f g : Fleet Tables}

theorem Entry.atlas {now : Instant} {held : String → Prop} (h : Entry now held f g) :
    g.atlas = f.atlas := by
  cases h with
  | other h => exact h.atlas
  | mark u hm => exact f.atlas_mark u _
  | allocate accept => exact f.atlas_allocate accept now
  | release hu => exact f.atlas_release _ now

theorem Entries.atlas {now : Instant} {held : String → Prop} (h : Entries now held f g) :
    g.atlas = f.atlas :=
  h.keep (P := fun g => g.atlas = f.atlas) (fun hf he => he.atlas.trans hf) rfl

/-! ### What an event does to the atlas -/

/-- An edit of the store from outside leaves the rows of areas as they are, and the store goes on
taking writes. -/
def LeavesAreas (f : Fleet Tables) : Event Tables → Prop
  | .edit store => store.areas = f.store.areas ∧ store.readOnly = f.store.readOnly
  | .perform _ _ _ => True

instance (f : Fleet Tables) : DecidablePred f.LeavesAreas
  | .edit _ => inferInstanceAs (Decidable (_ ∧ _))
  | .perform _ _ _ => .isTrue trivial

end Fleet

/-- Whether quest scanning may start in an event. -/
def Event.startsQuests {σ : Type} : Event σ → Bool
  | .perform (.nextJob _ _ _) _ _ | .perform (.startQuesting _) _ _ => true
  | _ => false

namespace Fleet

/-- What an event makes of the atlas. -/
inductive Mapped (f : Fleet Tables) : Event Tables → Fleet Tables → Prop
  | same {e : Event Tables} {g : Fleet Tables} (h : g.atlas = f.atlas) : Mapped f e g
  | start {e : Event Tables} {g : Fleet Tables} (he : e.startsQuests)
      (h : ReflGen Atlas.Improvises f.atlas g.atlas) : Mapped f e g
  | rebuild {e : Event Tables} {g : Fleet Tables}
      (h : ReflTransGen Atlas.Rebuilds f.atlas g.atlas) : Mapped f e g
  | startup {services : Services} {now : Instant} :
      Mapped f (.perform .bootstrap services now) (f.bootstrap now).2
  | reload {services : Services} {now : Instant} :
      Mapped f (.perform .reloadAreas services now) (f.reloadAreas now).2

theorem mapped {f : Fleet Tables} {e : Event Tables} (hw : f.store.readOnly = false)
    (he : f.LeavesAreas e) : Mapped f e (f.after e) := by
  cases e with
  | edit store => exact .same (by simp only [after, atlas, he.1, he.2])
  | perform op services now =>
    by_cases hplain : op.LoadsAccounts ∨ op.PlansAreas
    · cases op with
      | bootstrap => exact .startup
      | reloadAccounts => exact .same rfl
      | importAccounts accounts => exact .same (f.atlas_importAccounts hw accounts)
      | nextJob worker username host =>
        exact .start rfl (f.improvises_nextJob services now worker username host)
      | startQuesting area => exact .start rfl (f.improvises_startQuesting services area)
      | rebuildQuestRoute area =>
        exact .rebuild (f.rebuilds_rebuildQuestRoute services area).to_reflTransGen
      | rebuildDue => exact .rebuild (f.rebuilds_rebuildDue services now)
      | reloadAreas => exact .reload
      | _ => exact (hplain.elim id id).elim
    · rw [not_or] at hplain
      exact .same (f.entries_perform services now hplain.1 hplain.2).atlas

/-! ### Improvised routes -/

/-- The areas that an event gives a quest route when quest scanning starts. -/
def improvised (f : Fleet Tables) (e : Event Tables) : List Int :=
  if e.startsQuests then
    (f.areas.list.filter fun a => a.questRoute.isEmpty &&
      ((f.after e).areas.find? a.id).any (! ·.questRoute.isEmpty)).map (·.id)
  else []

theorem mem_improvised {f : Fleet Tables} {e : Event Tables} {id : Int} {c : Chart} {route : Route}
    (he : e.startsQuests) (hc : f.atlas.chart? id = some c) (hempty : c.questRoute = [])
    (hroute : route ≠ []) (h : (f.after e).atlas = f.atlas.improvise id c route) :
    id ∈ f.improvised e := by
  obtain ⟨a, ha, rfl⟩ := Option.map_eq_some_iff.mp hc
  have hid := Areas.id_of_find? ha
  subst hid
  have hchart : (f.after e).areas.chart? a.id = some { a.chart with questRoute := route } :=
    (congrFun (congrArg Atlas.chart? h) a.id).trans (Function.update_self ..)
  obtain ⟨b, hb, hbchart⟩ := Option.map_eq_some_iff.mp hchart
  have hbroute : b.questRoute = route := congrArg Chart.questRoute hbchart
  have haroute : a.questRoute = [] := hempty
  unfold improvised
  rw [if_pos he]
  refine List.mem_map.mpr ⟨a, List.mem_filter.mpr ⟨List.mem_of_find?_eq_some ha, ?_⟩, rfl⟩
  simp [haroute, hb, hbroute, hroute]

/-- The areas that a run gives quest routes when quest scanning starts. -/
def improvisations : Fleet Tables → List (Event Tables) → List Int
  | _, [] => []
  | f, e :: events => f.improvised e ++ (f.after e).improvisations events

end Fleet

end ScanFleet
