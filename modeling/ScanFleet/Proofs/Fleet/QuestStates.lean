import ScanFleet.Proofs.Area.QuestStates
import ScanFleet.Proofs.Fleet.Jobs
import ScanFleet.Proofs.Fleet.Unedited

/-! The quest scanning of a fleet, area by area.  Most operations leave it alone; a request for a
job takes a step in its own area, and a load, a start or a rebuild changes the areas that it is
about. -/

namespace ScanFleet

namespace Fleet

variable {σ : Type}

def quests (f : Fleet σ) : Int → Option QuestState := f.areas.quests

theorem quests_congr {f g : Fleet σ} (h : g.areas = f.areas) : g.quests = f.quests := by
  unfold quests
  rw [h]

theorem quests_recalculate (f : Fleet σ) (area : Int) (now : Instant) :
    (f.recalculate area now).2.quests = f.quests := by
  obtain ⟨cut, hcut⟩ := find?_recalculate f area now
  funext id
  rw [quests, Areas.quests, hcut, Option.map_map]
  rfl

theorem quests_recalculateAll (f : Fleet σ) (areas : List Int) (now : Instant) :
    (f.recalculateAll areas now).quests = f.quests := by
  obtain ⟨cut, hcut⟩ := find?_recalculateAll f areas now
  funext id
  rw [quests, Areas.quests, hcut, Option.map_map]
  rfl

theorem quests_purgeCaches (f : Fleet σ) (area : Int) (now : Instant) :
    (f.purgeCaches area now).quests = f.quests := by
  unfold purgeCaches
  split
  next => rfl
  next a ha =>
    have hid := Areas.id_of_find? ha
    subst hid
    exact Areas.quests_replace_of_eq ha (a.samePlan_purgeCaches now).id
      (a.questState_purgeCaches now)

theorem quests_sweep (f : Fleet σ) (now : Instant) : (f.sweep now).2.quests = f.quests := by
  refine List.foldlRecOn (motive := fun acc : Nat × Fleet σ => acc.2.quests = f.quests) _ _ rfl ?_
  intro acc hacc area _
  have hpurge := (acc.2.quests_purgeCaches area now).trans hacc
  unfold sweepArea
  dsimp only
  split
  · exact (quests_recalculate _ area now).trans hpurge
  · exact hpurge

section

variable [Store σ] (f : Fleet σ) (worker : String) (host : Option String) (now : Instant)

theorem quests_initWorker : (f.initWorker worker host now).2.quests = f.quests := by
  rcases f.initWorker_cases worker host now with ⟨_, hr⟩ | ⟨_, hr⟩ | ⟨area, -, -, hr⟩ <;> rw [hr]
  · rfl
  · rw [quests_congr (notes_persistDevice _ _ _).areas]
    rfl
  · rw [quests_congr (notes_persistDevice _ _ _).areas, quests_recalculate]
    rfl

theorem quests_assignAccount : (f.assignAccount worker host now).2.quests = f.quests := by
  rcases f.assignAccount_cases worker host now with ⟨_, hr⟩ | ⟨a, c, -, -, hr⟩ <;> rw [hr]
  · rfl
  · rw [quests_congr (notes_persistDevice _ _ _).areas, quests_recalculate,
      quests_congr (sameWork_bindAccount _ worker c.username now).areas]
    exact quests_congr (sameWork_allocate (f.touch worker host now) _ now).areas

theorem quests_tutorialDone : (f.tutorialDone worker).2.quests = f.quests := by
  unfold tutorialDone
  split
  · rfl
  · split
    · exact quests_congr (notes_markTutorialDone f _).areas
    · rfl

theorem quests_recordRaw (report : RawReport) :
    (f.recordRaw report host now).2.quests = f.quests := by
  have hcounted : (f.counted host now report).quests = f.quests := by
    change (f.heard host now report).quests = f.quests
    unfold heard
    dsimp only
    split
    · split
      · exact quests_congr (notes_setLevel _ _ _).areas
      · rfl
    · rfl
  rw [recordRaw_eq]
  split
  · rw [quests_congr (sameWork_tripAccount _ _ _ _).areas]
    exact hcounted
  · exact hcounted

theorem quests_logout : (f.logout worker now).2.quests = f.quests := by
  cases hs : f.sessions.find? worker with
  | none => exact quests_congr (notes_logout hs now).areas
  | some s =>
    have hforget : (f.forget s now).quests = f.quests :=
      quests_congr (sameWork_forget f s now).areas
    rw [logout_snd hs, quests_congr (notes_persist _ _).areas]
    split
    · exact (quests_recalculate _ _ now).trans hforget
    · exact hforget

end

/-! ### Starts and rebuilds -/

/-- What a start of quest scanning makes of the state of its area. -/
theorem quests_startQuesting {f : Fleet σ} {services : Services} {a : Area}
    (ha : f.areas.find? a.id = some a) (id : Int) :
    (f.startQuesting services a.id).2.quests id =
      if id = a.id then some (a.questState.started (a.startRoute services)) else f.quests id := by
  rw [← a.questState_startQuesting services]
  unfold startQuesting
  rw [ha]
  exact Areas.quests_replace ha (a.samePlan_startQuesting services).id id

/-- The route that a rebuild gives an area, if it finds one. -/
def newRoute? (f : Fleet σ) (services : Services) (id : Int) : Option Route :=
  (f.areas.find? id).bind fun a => (newQuestRoute services a).toOption

section

variable [Store σ] (f : Fleet σ) (services : Services)

theorem quests_rebuildQuestRoute (area id : Int) :
    (f.rebuildQuestRoute services area).2.quests id = (f.quests id).map
      (·.replacedBy (if id = area then f.newRoute? services id else none)) := by
  cases ha : f.areas.find? area with
  | none =>
    have hnew : (if id = area then f.newRoute? services id else none) = none := by
      split
      next h => rw [h, newRoute?, ha, Option.bind_none]
      next => rfl
    rw [hnew, QuestState.map_replacedBy_none]
    simp only [rebuildQuestRoute, ha]
  | some a =>
    obtain rfl := Areas.id_of_find? ha
    have hnew : f.newRoute? services a.id = (newQuestRoute services a).toOption := by
      rw [newRoute?, ha, Option.bind_some]
    cases hroute : newQuestRoute services a with
    | error e =>
      have hnone : (if id = a.id then f.newRoute? services id else none) = none := by
        split
        next h => rw [h, hnew, hroute]; rfl
        next => rfl
      rw [hnone, QuestState.map_replacedBy_none]
      simp only [rebuildQuestRoute, ha, hroute]
      rfl
    | ok route =>
      have hsnd : (f.rebuildQuestRoute services a.id).2.quests id =
          (f.areas.replace (a.setQuestRoute route)).quests id := by
        simp only [rebuildQuestRoute, ha, hroute]
        rfl
      rw [hsnd, Areas.quests_replace ha (a.samePlan_setQuestRoute route).id]
      split
      next h =>
        rw [h, hnew, hroute, quests, Areas.quests, ha]
        rfl
      next => rw [QuestState.map_replacedBy_none, quests]

/-- A rebuild leaves alone what a rebuild depends on. -/
theorem newRoute?_rebuildQuestRoute (area id : Int) :
    (f.rebuildQuestRoute services area).2.newRoute? services id = f.newRoute? services id := by
  unfold rebuildQuestRoute
  split
  next => rfl
  next a ha =>
    obtain rfl := Areas.id_of_find? ha
    dsimp only
    split
    next => rfl
    next route _ =>
      change (((f.areas.replace (a.setQuestRoute route)).find? id).bind fun a =>
        (newQuestRoute services a).toOption) = _
      rw [Areas.find?_replace, newRoute?]
      split
      next h =>
        rw [h, (a.samePlan_setQuestRoute route).id, ha]
        rfl
      next => rfl

theorem quests_foldl_rebuildCounting (acc : Nat × Fleet σ) (areas : List Int) (id : Int) :
    (areas.foldl (rebuildCounting services) acc).2.quests id = (acc.2.quests id).map
      (·.replacedBy (if id ∈ areas then acc.2.newRoute? services id else none)) := by
  induction areas generalizing acc with
  | nil => exact (QuestState.map_replacedBy_none _).symm
  | cons area areas ih =>
    have hstep : (rebuildCounting services acc area).2 =
        (acc.2.rebuildQuestRoute services area).2 := by
      unfold rebuildCounting
      split
      next h => rw [h]
      next h => rw [h]
    rw [List.foldl_cons, ih, hstep, quests_rebuildQuestRoute, newRoute?_rebuildQuestRoute,
      Option.map_map]
    congr 1
    funext q
    by_cases harea : id = area
    · subst harea
      by_cases hmem : id ∈ areas <;>
        simp [hmem, QuestState.replacedBy_replacedBy, QuestState.replacedBy_none]
    · simp [harea, QuestState.replacedBy_none]

theorem quests_rebuildDue (now : Instant) (id : Int) :
    (f.rebuildDue services now).2.quests id = (f.quests id).map (·.replacedBy
      (if id ∈ (f.rebuildCandidates services now).1 then f.newRoute? services id else none)) :=
  quests_foldl_rebuildCounting services (0, (f.rebuildCandidates services now).2) _ id

end

/-! ### Loads -/

section

variable [Store σ]

/-- The rows of areas that a startup registers, which end before the first malformed one. -/
def startupRows (f : Fleet σ) (now : Instant) : List AreaRecord :=
  match { f with store := (Store.releaseAll now f.store).2 }.reloadAccounts with
  | (.error _, _) => []
  | (.ok _, g) =>
    ((Store.loadAreas g.store).toOption.getD []).takeWhile fun r => (Definition.strict r).isOk

omit [Store σ] in
theorem registerAll_takeWhile (f : Fleet σ) (rows : List AreaRecord) :
    (f.registerAll (rows.takeWhile fun r => (Definition.strict r).isOk)).2 =
      (f.registerAll rows).2 := by
  induction rows generalizing f with
  | nil => rfl
  | cons r rows ih =>
    cases hr : Definition.strict r with
    | error e =>
      rw [List.takeWhile_cons_of_neg (by rw [hr]; exact Bool.false_ne_true)]
      simp only [registerAll, hr]
    | ok d =>
      rw [List.takeWhile_cons_of_pos (by rw [hr]; rfl)]
      simp only [registerAll, hr]
      exact ih _

theorem bootstrap_snd (f : Fleet σ) (now : Instant) :
    (f.bootstrap now).2 = ((f.bootstrapAccounts now).registerAll (f.startupRows now)).2 := by
  unfold bootstrap bootstrapAccounts startupRows
  dsimp only
  cases { f with store := (Store.releaseAll now f.store).2 }.reloadAccounts with
  | mk result g =>
    cases result with
    | error e => rfl
    | ok counts =>
      dsimp only
      cases Store.loadAreas g.store with
      | error e => rfl
      | ok rows =>
        have hrows :
            (Except.ok rows : Except FleetError (List AreaRecord)).toOption.getD [] = rows := rfl
        rw [hrows, registerAll_takeWhile]
        dsimp only
        split
        next h => rw [h]
        next h => rw [h]

omit [Store σ] in
theorem quests_registerAll {f : Fleet σ} {rows : List AreaRecord} {id : Int}
    (h : id ∉ rows.map (·.id)) : (f.registerAll rows).2.quests id = f.quests id := by
  induction rows generalizing f with
  | nil => rfl
  | cons r rows ih =>
    rw [List.map_cons, List.mem_cons, not_or] at h
    unfold registerAll
    split
    · rfl
    next d hd =>
      have hid : d.id = r.id := by
        rw [← Definition.lenient_of_strict hd]
        rfl
      rw [ih h.2]
      change (f.areas.register d).quests id = f.areas.quests id
      rw [Areas.quests, Areas.find?_register, hid, if_neg h.1, Areas.quests]

theorem quests_bootstrap {f : Fleet σ} {now : Instant} {id : Int}
    (h : (f.startupRows now).any (·.id = id) = false) :
    (f.bootstrap now).2.quests id = f.quests id := by
  have hid : id ∉ (f.startupRows now).map (·.id) := by
    simp only [List.any_eq_false, decide_eq_true_eq] at h
    intro hmem
    obtain ⟨r, hr, heq⟩ := List.mem_map.mp hmem
    exact h r hr heq
  rw [bootstrap_snd, quests_registerAll hid,
    quests_congr (sameWork_bootstrapAccounts f now).areas]

theorem refreshed_reloadAreas {f : Fleet σ} {id : Int} {q : QuestState}
    (hq : f.quests id = some q) {rows : List AreaRecord}
    (hrows : Store.loadAreas f.store = .ok rows) (hrow : rows.any (·.id = id))
    (h : ∀ route ∈ f.areas.otherRoutes rows id, route = q.route) (now : Instant) :
    ∃ q', (f.reloadAreas now).2.quests id = some q' ∧
      q.Refreshed q' (f.areas.otherRoutes rows id ≠ []) := by
  rw [reloadAreas_snd, hrows]
  dsimp only
  rw [quests_recalculateAll, quests, (reconcile_keeps f rows).2.2]
  exact Areas.refreshed_apply hq hrow h

end

/-! ### Requests for jobs -/

section

variable {f : Fleet σ} {a : Area} (services : Services) (now : Instant)

theorem find?_checkQuests_eq (ha : f.areas.find? a.id = some a) (id : Int) :
    (f.checkQuests services a now).areas.find? id =
      if id = a.id then some (a.gated services now) else f.areas.find? id := by
  have hid := (a.samePlan_checkQuests services now).id
  have hcheck := Areas.find?_replace_of_find? ha hid
  unfold checkQuests Area.gated
  dsimp only
  split
  next =>
    have hb := hcheck a.id
    rw [if_pos rfl] at hb
    unfold startQuesting ask
    dsimp only
    rw [hb]
    dsimp only
    have hstart := Areas.find?_replace_of_find? (hid ▸ hb)
      ((a.checkQuests services now).2.samePlan_startQuesting services).id id
    rw [hstart, hid, hcheck]
    split <;> rfl
  next => exact hcheck id

/-- The step that is due in an area is that of its quest scanning after the gate was looked at. -/
theorem nextQuestStep_checkQuests (ha : f.areas.find? a.id = some a) :
    (f.checkQuests services a now).nextQuestStep a.id =
      ((a.gated services now).questState.given,
        { f.checkQuests services a now with
          areas := (f.checkQuests services a now).areas.replace
            { a.gated services now with
              pass := (a.gated services now).questState.turn.next } }) := by
  have hgated := find?_checkQuests_eq services now ha a.id
  rw [if_pos rfl] at hgated
  unfold nextQuestStep
  rw [hgated]
  dsimp only
  rw [Area.nextQuestStep_eq]

theorem quests_nextQuestStep_checkQuests (ha : f.areas.find? a.id = some a) (id : Int) :
    ((f.checkQuests services a now).nextQuestStep a.id).2.quests id =
      if id = a.id then some (a.gated services now).questState.turn else f.quests id := by
  have hid := (a.samePlan_gated services now).id
  have hgated := find?_checkQuests_eq services now ha (a.gated services now).id
  rw [if_pos hid] at hgated
  rw [nextQuestStep_checkQuests services now ha, quests,
    Areas.quests_replace (b := { a.gated services now with
      pass := (a.gated services now).questState.turn.next }) hgated rfl, hid]
  split
  next => rfl
  next h => rw [Areas.quests, find?_checkQuests_eq services now ha, if_neg h, quests, Areas.quests]

theorem dueQuestStep_eq (ha : f.areas.find? a.id = some a) :
    f.dueQuestStep services a now = (a.gated services now).questState.given := by
  rw [dueQuestStep, nextQuestStep_checkQuests services now ha]

theorem settings_checkQuests (f : Fleet σ) (services : Services) (a : Area) (now : Instant) :
    (f.checkQuests services a now).settings = f.settings := by
  unfold checkQuests
  dsimp only
  split
  · unfold startQuesting
    split <;> rfl
  · rfl

theorem areaJob_of_given_eq_some (ha : f.areas.find? a.id = some a) (worker : String) {step : Nat}
    (h : (a.gated services now).questState.given = some step) :
    (f.areaJob services worker a now).1 = ((a.gated services now).locationAt .quest step).map
      (.scanQuest · f.settings.minLevel f.settings.maxLevel) := by
  have hgated := find?_checkQuests_eq services now ha a.id
  rw [if_pos rfl] at hgated
  simp only [areaJob, hgated, Option.getD_some, nextQuestStep_checkQuests services now ha, h,
    settings_checkQuests]

theorem pokemonJob_congr {a b : Area} (hid : b.id = a.id) (hroute : b.route = a.route)
    (f : Fleet σ) (worker : String) (now : Instant) :
    f.pokemonJob worker b now = f.pokemonJob worker a now := by
  have hlocation (step : Nat) : b.locationAt .pokemon step = a.locationAt .pokemon step := by
    simp only [Area.locationAt, Area.routeOf, hid, hroute]
  simp only [pokemonJob, hid, hlocation]

theorem areaJob_of_given_eq_none (ha : f.areas.find? a.id = some a) (worker : String)
    (h : (a.gated services now).questState.given = none) :
    f.areaJob services worker a now =
      ((f.checkQuests services a now).nextQuestStep a.id).2.pokemonJob worker a now := by
  have hsame := a.samePlan_gated services now
  have hgated := find?_checkQuests_eq services now ha a.id
  rw [if_pos rfl] at hgated
  rw [← pokemonJob_congr hsame.id hsame.route]
  simp only [areaJob, hgated, Option.getD_some, nextQuestStep_checkQuests services now ha, h]

theorem quests_pokemonJob (f : Fleet σ) (worker : String) (a : Area) (now : Instant) :
    (f.pokemonJob worker a now).2.quests = f.quests := by
  have hcut : (if f.hasWalk worker then f else (f.recalculate a.id now).2).quests = f.quests := by
    split
    · rfl
    · exact f.quests_recalculate a.id now
  unfold pokemonJob
  extract_lets g
  split
  · exact hcut
  · exact hcut

/-- A request that is put to an area takes a step there. -/
theorem quests_areaJob (ha : f.areas.find? a.id = some a) (worker : String) (id : Int) :
    (f.areaJob services worker a now).2.quests id =
      if id = a.id then some (a.gated services now).questState.turn else f.quests id := by
  rw [← quests_nextQuestStep_checkQuests services now ha]
  unfold areaJob
  dsimp only
  split
  next hnext => rw [hnext]
  next hnext => rw [hnext, quests_pokemonJob]

end

/-- The area that a request for a job is put to.  The worker must be bound to it, and the account
that it names or is bound to may be used. -/
def jobArea (f : Fleet σ) (worker : String) (username : Option String) (now : Instant) :
    Option Area :=
  match f.namedAccount worker username with
  | none => none
  | some name =>
    match f.isValid name now with
    | .ok true => (f.boundArea worker).toOption
    | _ => none

section

variable {f : Fleet σ} {worker : String} {username host : Option String} {now : Instant}

theorem nextJob_of_jobArea {a : Area}
    (h : (f.touch worker host now).jobArea worker username now = some a) (services : Services) :
    (f.touch worker host now).areas.find? a.id = some a ∧
      f.nextJob services worker username host now =
        (f.touch worker host now).areaJob services worker a now := by
  unfold jobArea at h
  split at h
  · cases h
  next name hname =>
    split at h
    next hvalid =>
      cases hbound : (f.touch worker host now).boundArea worker with
      | error e =>
        rw [hbound] at h
        cases h
      | ok b =>
        rw [hbound] at h
        cases h
        obtain ⟨-, -, -, hfind⟩ := find?_boundArea hbound
        exact ⟨hfind, by simp only [nextJob, hname, hvalid, hbound]⟩
    · cases h

theorem isValid_error {name : String} {e : FleetError} (h : f.isValid name now = .error e) :
    e = .accountNotFound name := by
  unfold isValid at h
  split at h
  · cases h
  · exact (Except.error.inj h).symm

theorem boundArea_error {e : FleetError} (h : f.boundArea worker = .error e) :
    e = .noAreaAllocated worker := by
  unfold boundArea at h
  split at h
  · cases h
  · exact (Except.error.inj h).symm

/-- A request that is put to no area does no more than note that the worker was seen. -/
theorem nextJob_of_jobArea_eq_none
    (h : (f.touch worker host now).jobArea worker username now = none) (services : Services) :
    (f.nextJob services worker username host now).2 = f.touch worker host now ∧
      ∀ e, (f.nextJob services worker username host now).1 = .error e →
        (∃ name, e = .accountNotFound name) ∨ e = .noAreaAllocated worker := by
  unfold jobArea at h
  unfold nextJob
  dsimp only
  split
  next => exact ⟨rfl, fun e he => .inl ⟨_, (Except.error.inj he).symm⟩⟩
  next name hname =>
    rw [hname] at h
    dsimp only at h
    split
    next herror =>
      exact ⟨rfl, fun e he => .inl ⟨name, Except.error.inj he ▸ isValid_error herror⟩⟩
    next => exact ⟨rfl, nofun⟩
    next hvalid =>
      rw [hvalid] at h
      split
      next herror =>
        exact ⟨rfl, fun e he => .inr (Except.error.inj he ▸ boundArea_error herror)⟩
      next hbound =>
        rw [hbound] at h
        cases h

end

/-- Only a startup and what is about quests or the rows of areas may change quest scanning. -/
theorem quests_perform [Store σ] (f : Fleet σ) (services : Services) (now : Instant)
    {op : Operation} (hplan : ¬ op.PlansAreas) (hstartup : op ≠ .bootstrap) :
    (f.perform services now op).quests = f.quests := by
  cases op with
  | bootstrap => exact absurd rfl hstartup
  | initWorker worker host => exact f.quests_initWorker worker host now
  | heartbeat worker host => exact quests_congr (notes_persistDevice _ worker now).areas
  | assignAccount worker host => exact f.quests_assignAccount worker host now
  | reportAccount username event =>
    exact quests_congr (notes_reportAccount f username event now).areas
  | tutorialDone worker => exact f.quests_tutorialDone worker
  | recordRaw report host => exact f.quests_recordRaw host now report
  | logout worker => exact f.quests_logout worker now
  | sweep => exact f.quests_sweep now
  | reloadAccounts => exact quests_congr (sameWork_reloadAccounts f).areas
  | importAccounts accounts => exact quests_congr (sameWork_importAccounts f accounts).areas
  | nextJob | startQuesting | rebuildQuestRoute | rebuildDue | reloadAreas =>
    exact absurd trivial hplan

/-! ### Sound states -/

/-- The quest scanning of every area is in a sound state. -/
def QuestsSound (f : Fleet σ) : Prop := f.areas.QuestsSound

namespace QuestsSound

variable {f g : Fleet σ}

theorem congr (h : f.QuestsSound) (hg : g.quests = f.quests) : g.QuestsSound :=
  fun id q hq => h id q ((congrFun hg id).symm.trans hq)

theorem registerAll (h : f.QuestsSound) (rows : List AreaRecord) :
    (f.registerAll rows).2.QuestsSound := by
  induction rows generalizing f with
  | nil => exact h
  | cons r rows ih =>
    unfold Fleet.registerAll
    split
    · exact h
    next d _ => exact ih (f := { f with areas := f.areas.register d }) (h.register d)

theorem startQuesting (h : f.QuestsSound) (services : Services) (area : Int) :
    (f.startQuesting services area).2.QuestsSound := by
  cases ha : f.areas.find? area with
  | none =>
    unfold Fleet.startQuesting
    rw [ha]
    exact h
  | some a =>
    obtain rfl := Areas.id_of_find? ha
    intro id q hq
    rw [← quests, quests_startQuesting ha] at hq
    split at hq
    · cases hq
      have hold : f.areas.quests a.id = some a.questState := by
        rw [Areas.quests, ha]
        rfl
      exact (h a.id _ hold).started (a.startRoute_eq_nil services)
    · exact h id q hq

theorem areaJob (h : f.QuestsSound) {a : Area} (ha : f.areas.find? a.id = some a)
    (services : Services) (worker : String) (now : Instant) :
    (f.areaJob services worker a now).2.QuestsSound := by
  intro id q hq
  rw [← quests, quests_areaJob services now ha] at hq
  split at hq
  · cases hq
    exact .turn
  · exact h id q hq

theorem map_replacedBy (h : f.QuestsSound) {route : Int → Option Route}
    (hg : ∀ id, g.quests id = (f.quests id).map (·.replacedBy (route id))) : g.QuestsSound := by
  intro id q hq
  rw [← quests, hg] at hq
  obtain ⟨q, hold, rfl⟩ := Option.map_eq_some_iff.mp hq
  exact (h id q hold).replacedBy (route id)

variable [Store σ]

theorem reloadAreas (h : f.QuestsSound) (now : Instant) : (f.reloadAreas now).2.QuestsSound := by
  rw [reloadAreas_snd]
  split
  next => exact h
  next rows _ =>
    have hreconcile : (f.reconcile rows).QuestsSound := by
      rw [QuestsSound, (reconcile_keeps f rows).2.2]
      exact h.apply _
    exact hreconcile.congr (quests_recalculateAll _ _ now)

theorem perform (h : f.QuestsSound) (services : Services) (now : Instant) (op : Operation) :
    (f.perform services now op).QuestsSound := by
  cases op with
  | bootstrap =>
    have haccounts : (f.bootstrapAccounts now).QuestsSound :=
      h.congr (quests_congr (sameWork_bootstrapAccounts f now).areas)
    rw [Fleet.perform, bootstrap_snd]
    exact haccounts.registerAll _
  | nextJob worker username host =>
    have htouch : (f.touch worker host now).QuestsSound := h
    rw [Fleet.perform]
    cases hjob : (f.touch worker host now).jobArea worker username now with
    | none =>
      rw [(nextJob_of_jobArea_eq_none hjob services).1]
      exact htouch
    | some a =>
      obtain ⟨ha, hnext⟩ := nextJob_of_jobArea hjob services
      rw [hnext]
      exact htouch.areaJob ha services worker now
  | startQuesting area => exact h.startQuesting services area
  | rebuildQuestRoute area => exact h.map_replacedBy (f.quests_rebuildQuestRoute services area)
  | rebuildDue => exact h.map_replacedBy (f.quests_rebuildDue services now)
  | reloadAreas => exact h.reloadAreas now
  | _ => exact h.congr (f.quests_perform services now id nofun)

theorem after (h : f.QuestsSound) (e : Event σ) : (f.after e).QuestsSound := by
  cases e with
  | perform op services now => exact h.perform services now op
  | edit store => exact h

theorem run (h : f.QuestsSound) (events : List (Event σ)) : (f.run events).QuestsSound := by
  induction events generalizing f with
  | nil => exact h
  | cons e events ih => exact ih (h.after e)

end QuestsSound

theorem questsSound_new (settings : Settings) (store : σ) :
    (Fleet.new settings store).QuestsSound :=
  fun _ _ h => nomatch h

end Fleet

end ScanFleet
