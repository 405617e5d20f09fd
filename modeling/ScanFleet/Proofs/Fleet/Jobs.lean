import ScanFleet.Proofs.Fleet.Bindings
import ScanFleet.Proofs.Fleet.Overhang
import ScanFleet.Proofs.Session.Rotation

/-! What a worker is told to do next.  For a worker bound to an area with a route, with an account
that may be used, it is a step of the quest pass while one runs, and else the next step of the
worker's part.  That step is on the route unless the worker holds a part that overhangs. -/

namespace ScanFleet

namespace Area

theorem locationAt_ok {a : Area} (mode : Mode) {step : Nat} (h : step < (a.routeOf mode).length) :
    ∃ l ∈ a.routeOf mode, a.locationAt mode step = .ok l := by
  refine ⟨(a.routeOf mode)[step], List.getElem_mem h, ?_⟩
  simp [locationAt, h]

theorem locationAt_beyond {a : Area} (mode : Mode) {step : Nat}
    (h : (a.routeOf mode).length ≤ step) :
    a.locationAt mode step =
      .error (.stepOutOfRange a.id mode.text step (a.routeOf mode).length) := by
  simp [locationAt, h]

end Area

namespace Fleet

variable {σ : Type} {f : Fleet σ} {worker : String} {x : Session} {now : Instant}

/-! ### The next step of the route -/

theorem pokemonJob_of_walk (hx : f.sessions.find? worker = some x) {w : Walk}
    (hw : x.walk = some w) (a : Area) :
    (f.pokemonJob worker a now).1 =
      (a.locationAt .pokemon w.step).map
        (.scanPokemon · f.settings.minLevel f.settings.maxLevel) := by
  have hhas : f.hasWalk worker = true := by simp [hasWalk, hx, hw]
  have hwalk : f.sessions.walk? worker = some w := by
    rw [Sessions.walk?, hx, Option.bind_some, hw]
  rw [pokemonJob_of_hasWalk hhas, Sessions.turn_fst hwalk]

/-- A live worker without a part gets one, because its area is cut anew. -/
theorem pokemonJob_of_no_walk (hd : f.sessions.Distinct) (hx : f.sessions.find? worker = some x)
    (hw : x.walk = none) {a : Area} (ha : x.area = some a.id)
    (hr : f.route? a.id = some a.route) (hne : a.route ≠ [])
    (hlive : x.isLive now f.settings.unseen) :
    ∃ l ∈ a.route, (f.pokemonJob worker a now).1 =
      .ok (.scanPokemon l f.settings.minLevel f.settings.maxLevel) := by
  obtain ⟨hmem, hid⟩ := (Sessions.find?_eq_some_iff hd).mp hx
  have hids : x.id ∈ f.liveIds a.id now := (Sessions.mem_liveIds hd hmem).mpr ⟨ha, hlive⟩
  have hlist := list_recalculate hd hr (List.ne_nil_of_mem hids)
  have hfind : (f.recalculate a.id now).2.sessions.find? worker =
      some (x.recut (f.liveIds a.id now) a.route.length) := by
    rw [Sessions.find?_eq_some_iff (distinct_recalculate hd a.id now), hlist,
      (x.sameButWalk_recut _ _).id]
    exact ⟨List.mem_map.mpr ⟨x, hmem, if_pos ha⟩, hid⟩
  obtain ⟨w, hnew⟩ : ∃ w, (x.recut (f.liveIds a.id now) a.route.length).walk = some w := by
    rw [Session.recut, if_pos ⟨hids, List.length_pos_iff.mpr hne⟩]
    exact ⟨_, rfl⟩
  obtain ⟨-, hwithin, -, hlast⟩ := Session.walk_recut hnew
  have hstep : w.step < a.route.length := Nat.lt_of_le_of_lt hwithin.2 hlast
  obtain ⟨l, hl, hloc⟩ := Area.locationAt_ok .pokemon hstep
  refine ⟨l, hl, ?_⟩
  have hjob : (f.pokemonJob worker a now).1 =
      ((f.recalculate a.id now).2.pokemonJob worker a now).1 := by
    have hhas : f.hasWalk worker = false := by simp [hasWalk, hx, hw]
    have hhas' : (f.recalculate a.id now).2.hasWalk worker = true := by
      simp [hasWalk, hfind, hnew]
    simp [pokemonJob, hhas, hhas']
  rw [hjob, pokemonJob_of_walk hfind hnew, hloc, recalculate_settings]
  rfl

theorem pokemonJob_scans (hd : f.sessions.Distinct) (hx : f.sessions.find? worker = some x)
    {a : Area} (ha : x.area = some a.id) (hr : f.route? a.id = some a.route) (hne : a.route ≠ [])
    (hlive : x.isLive now f.settings.unseen) (hstep : ∀ w ∈ x.walk, w.step < a.route.length) :
    ∃ l ∈ a.route, (f.pokemonJob worker a now).1 =
      .ok (.scanPokemon l f.settings.minLevel f.settings.maxLevel) := by
  cases hw : x.walk with
  | none => exact pokemonJob_of_no_walk hd hx hw ha hr hne hlive
  | some w =>
    obtain ⟨l, hl, hloc⟩ := Area.locationAt_ok .pokemon (hstep w hw)
    exact ⟨l, hl, by rw [pokemonJob_of_walk hx hw, hloc]; rfl⟩

/-! ### Quest steps -/

theorem sessions_startQuesting (f : Fleet σ) (services : Services) (area : Int) :
    (f.startQuesting services area).2.sessions = f.sessions := by
  unfold startQuesting
  split <;> rfl

theorem sessions_checkQuests (f : Fleet σ) (services : Services) (a : Area) (now : Instant) :
    (f.checkQuests services a now).sessions = f.sessions := by
  unfold checkQuests
  dsimp only
  split
  · exact sessions_startQuesting _ _ _
  · rfl

theorem sessions_nextQuestStep (f : Fleet σ) (area : Int) :
    (f.nextQuestStep area).2.sessions = f.sessions := by
  unfold nextQuestStep
  split <;> rfl

/-- The step of the quest pass of an area that a worker is given now, if one is. -/
def dueQuestStep (f : Fleet σ) (services : Services) (a : Area) (now : Instant) : Option Nat :=
  ((f.checkQuests services a now).nextQuestStep a.id).1

section

variable [Store σ] {services : Services} {a : Area}

theorem find?_checkQuests (services : Services) (now : Instant)
    (ha : f.areas.find? a.id = some a) :
    ∃ b, (f.checkQuests services a now).areas.find? a.id = some b ∧ b.id = a.id ∧
      b.route = a.route := by
  have hroute := (quietMoves_checkQuests f services now ha).moves.route? a.id
  simp only [route?, Areas.route?, ha, Option.map_some] at hroute
  obtain ⟨b, hb, hr⟩ := Option.map_eq_some_iff.mp hroute
  exact ⟨b, hb, Areas.id_of_find? hb, hr⟩

/-- A step of the quest pass that is due is given out, and it is on the quest route. -/
theorem areaJob_quest (worker : String) (ha : f.areas.find? a.id = some a) {step : Nat}
    (hstep : f.dueQuestStep services a now = some step) :
    ∃ b l, (f.areaJob services worker a now).2.areas.find? a.id = some b ∧ l ∈ b.questRoute ∧
      (f.areaJob services worker a now).1 =
        .ok (.scanQuest l f.settings.minLevel f.settings.maxLevel) := by
  obtain ⟨b, hb, hid, -⟩ := find?_checkQuests services now ha
  have hset := (quietMoves_checkQuests f services now ha).moves.settings
  have hnext : (f.checkQuests services a now).nextQuestStep a.id = (b.nextQuestStep.1,
      { f.checkQuests services a now with
        areas := (f.checkQuests services a now).areas.replace b.nextQuestStep.2 }) := by
    simp only [nextQuestStep, hb]
  have hq : b.nextQuestStep.1 = some step := by
    rw [dueQuestStep, hnext] at hstep
    exact hstep
  obtain ⟨hlt, hsame⟩ := Area.nextQuestStep_lt hq
  obtain ⟨l, hl, hloc⟩ := Area.locationAt_ok .quest hlt
  refine ⟨b.nextQuestStep.2, l, ?_, by rw [hsame]; exact hl, ?_⟩
  · simp only [areaJob, hnext, hq]
    rw [Areas.find?_replace, b.samePlan_nextQuestStep.id, hid, if_pos rfl, hb]
    rfl
  · simp only [areaJob, hnext, hq, hb, Option.getD_some, hloc, hset]
    rfl

theorem areaJob_pokemon (worker : String) (ha : f.areas.find? a.id = some a)
    (hstep : f.dueQuestStep services a now = none) :
    ∃ g b, Moves now f g ∧ g.sessions = f.sessions ∧ b.id = a.id ∧ b.route = a.route ∧
      f.areaJob services worker a now = g.pokemonJob worker b now := by
  obtain ⟨b, hb, hid, hroute⟩ := find?_checkQuests services now ha
  have hmoves : Moves now f ((f.checkQuests services a now).nextQuestStep a.id).2 :=
    QuietMoves.moves
      ((quietMoves_checkQuests f services now ha).trans (quietMoves_nextQuestStep _ now a.id))
  have hsessions := (sessions_nextQuestStep (f.checkQuests services a now) a.id).trans
    (sessions_checkQuests f services a now)
  unfold dueQuestStep at hstep
  cases hnext : (f.checkQuests services a now).nextQuestStep a.id with
  | mk step g =>
    rw [hnext] at hstep hmoves hsessions
    cases hstep
    exact ⟨g, b, hmoves, hsessions, hid, hroute, by simp only [areaJob, hb, hnext]; rfl⟩

end

/-! ### The next job -/

/-- A worker is bound to a registered area with a route, and the account that it names or is bound
to may be used now. -/
structure Ready (f : Fleet σ) (worker : String) (username : Option String) (now : Instant)
    (x : Session) (a : Area) : Prop where
  session : f.sessions.find? worker = some x
  bound : x.area = some a.id
  registered : f.areas.find? a.id = some a
  route : a.route ≠ []
  usable : ∃ name, f.namedAccount worker username = some name ∧ f.isValid name now = .ok true

/-- What comes of a question for a job is a job for a step of the quest route or of the route of an
area, as these are afterwards. -/
def ScansArea (r : Except FleetError Job × Fleet σ) (area : Int) : Prop :=
  ∃ a l, r.2.areas.find? area = some a ∧
    (l ∈ a.questRoute ∧
        r.1 = .ok (.scanQuest l r.2.settings.minLevel r.2.settings.maxLevel) ∨
      l ∈ a.route ∧ r.1 = .ok (.scanPokemon l r.2.settings.minLevel r.2.settings.maxLevel))

/-- No quest step is due, and the next step of the worker's walk is not on the route. -/
def OffRoute (f : Fleet σ) (services : Services) (now : Instant) (x : Session) (a : Area) : Prop :=
  f.dueQuestStep services a now = none ∧ ∃ w ∈ x.walk, a.route.length ≤ w.step

variable {services : Services} {username host : Option String}

namespace Ready

theorem nextJob (h : f.Ready worker username now x a) :
    f.nextJob services worker username host now =
      (f.touch worker host now).areaJob services worker a now := by
  obtain ⟨name, hname, hvalid⟩ := h.usable
  have hfind := Sessions.find?_touch h.session host now
  have hnamed : (f.touch worker host now).namedAccount worker username = some name := by
    rw [namedAccount, boundAccount_touch]
    exact hname
  have hvalid' : (f.touch worker host now).isValid name now = .ok true := hvalid
  have harea : (f.touch worker host now).boundArea worker = .ok a := by
    have hareas : (f.touch worker host now).areas = f.areas := rfl
    have htouch : (x.touch host now).area = some a.id := h.bound
    simp only [boundArea, Fleet.touch, hfind, Option.bind_some, htouch]
    rw [h.registered]
  simp only [Fleet.nextJob, hnamed, hvalid', harea]

theorem of_eval {area : Int} {name : String}
    (hx : (f.sessions.find? worker).bind (·.area) = some area)
    (ha : (f.areas.find? area).any (!·.route.isEmpty))
    (hname : f.namedAccount worker username = some name) (hvalid : f.isValid name now = .ok true) :
    ∃ x a, f.Ready worker username now x a ∧ a.id = area := by
  obtain ⟨x, hsession, hbound⟩ := Option.bind_eq_some_iff.mp hx
  obtain ⟨a, hfind, hne⟩ := (Option.any_eq_true _ _).mp ha
  have hid := Areas.id_of_find? hfind
  subst hid
  exact ⟨x, a, ⟨hsession, hbound, hfind, by simpa using hne, name, hname, hvalid⟩, rfl⟩

theorem touch (h : f.Ready worker username now x a) (host : Option String) :
    (f.touch worker host now).sessions.find? worker = some (x.touch host now) ∧
      (f.touch worker host now).areas.find? a.id = some a :=
  ⟨Sessions.find?_touch h.session host now, h.registered⟩

theorem not_offRoute (h : f.Ready worker username now x a) (hf : f.Sound)
    (hover : ¬ f.Overhang a.id) : ¬ (f.touch worker host now).OffRoute services now x a := by
  rintro ⟨-, w, hw, hle⟩
  have hmem := Sessions.mem_of_find? h.session
  have hwithin := (hf.fits x hmem).within w hw
  refine hover ⟨x, hmem, h.bound, w, hw, a.route, ?_, Nat.le_trans hle hwithin.2⟩
  rw [Option.mem_def, route?, Areas.route?, h.registered]
  rfl

end Ready

section

variable [Store σ]

namespace Ready

/-- A ready worker whose next step is on the route, or that is given a quest step, scans its
area. -/
theorem scansArea (h : f.Ready worker username now x a) (hd : f.sessions.Distinct)
    (hunseen : 0 ≤ f.settings.unseen)
    (hon : ¬ (f.touch worker host now).OffRoute services now x a) :
    ScansArea (f.nextJob services worker username host now) a.id := by
  obtain ⟨htouch, hareas⟩ := h.touch host
  have hmoves := (quietMoves_nextJob f services worker host now username).moves
  have hset := hmoves.settings
  rw [ScansArea, hset]
  cases hq : (f.touch worker host now).dueQuestStep services a now with
  | some step =>
    obtain ⟨b, l, hb, hl, hjob⟩ := areaJob_quest worker hareas hq
    rw [h.nextJob]
    exact ⟨b, l, hb, .inl ⟨hl, hjob⟩⟩
  | none =>
    obtain ⟨g, b, hg, hsessions, hid, hroute, hjob⟩ := areaJob_pokemon worker hareas hq
    have hstep : ∀ w ∈ (x.touch host now).walk, w.step < b.route.length := fun w hw =>
      Nat.lt_of_not_le fun hle => hon ⟨hq, w, hw, by rwa [← hroute]⟩
    have hgset : g.settings = f.settings := hg.settings
    have hgroute : g.route? b.id = some b.route := by
      rw [hg.route?, route?, Areas.route?, hid, hareas, hroute]
      rfl
    have hlive : (x.touch host now).isLive now g.settings.unseen := by
      rw [hgset]
      simpa [Session.isLive, Session.touch] using hunseen
    have hfind : g.sessions.find? worker = some (x.touch host now) := by
      rw [hsessions]
      exact htouch
    obtain ⟨l, hl, hscan⟩ := pokemonJob_scans (by rw [hsessions]; exact hd.touch worker host now)
      hfind (by rw [hid]; exact h.bound) hgroute (by rw [hroute]; exact h.route)
      hlive hstep
    have hlast := hmoves.route? a.id
    rw [route?, Areas.route?, route?, Areas.route?, h.registered] at hlast
    obtain ⟨c, hc, hcroute⟩ := Option.map_eq_some_iff.mp hlast
    have hsame : c.route = b.route := hcroute.trans hroute.symm
    refine ⟨c, l, hc, .inr ⟨by rw [hsame]; exact hl, ?_⟩⟩
    rw [h.nextJob, hjob, hscan, hgset]

/-- A ready worker whose next step is not on the route is told so. -/
theorem stepOutOfRange (h : f.Ready worker username now x a)
    (hoff : (f.touch worker host now).OffRoute services now x a) :
    ∃ w ∈ x.walk, (f.nextJob services worker username host now).1 =
      .error (.stepOutOfRange a.id "pokemon" w.step a.route.length) := by
  obtain ⟨htouch, hareas⟩ := h.touch host
  obtain ⟨hq, w, hw, hle⟩ := hoff
  obtain ⟨g, b, -, hsessions, hid, hroute, hjob⟩ := areaJob_pokemon worker hareas hq
  refine ⟨w, hw, ?_⟩
  have hfind : g.sessions.find? worker = some (x.touch host now) := by
    rw [hsessions]
    exact htouch
  have hbeyond : b.locationAt .pokemon w.step =
      .error (.stepOutOfRange a.id "pokemon" w.step a.route.length) := by
    rw [Area.locationAt_beyond .pokemon (by rw [Area.routeOf, hroute]; exact hle), hid,
      Area.routeOf, hroute]
    rfl
  rw [h.nextJob, hjob, pokemonJob_of_walk hfind hw, hbeyond]
  rfl

end Ready

/-- In every state of a run a ready worker scans its area, unless its next step is off the route,
which it is told then.  In a run in which no load of areas strands a part it always scans. -/
theorem run_nextJob (settings : Settings) (hunseen : 0 ≤ settings.unseen) (store : σ)
    (events : List (Event σ)) :
    let f := (Fleet.new settings store).run events
    ∀ (services : Services) (worker : String) (username host : Option String) (now : Instant)
      (x : Session) (a : Area), f.Ready worker username now x a →
      let r := f.nextJob services worker username host now
      (¬ (f.touch worker host now).OffRoute services now x a → ScansArea r a.id) ∧
      ((f.touch worker host now).OffRoute services now x a → ∃ w ∈ x.walk,
        r.1 = .error (.stepOutOfRange a.id "pokemon" w.step a.route.length)) ∧
      (Along (fun f e => f.stranded e = []) (Fleet.new settings store) events →
        ScansArea r a.id) := by
  intro f services worker username host now x a h r
  have hf : f.Sound := (sound_new settings store).run events
  have hset : 0 ≤ f.settings.unseen := by
    rw [settings_run]
    exact hunseen
  exact ⟨h.scansArea hf.distinct hset, h.stepOutOfRange, fun halong =>
    h.scansArea hf.distinct hset (h.not_offRoute hf (not_overhang_run settings store halong a.id))⟩

/-- A worker with an account goes one step.  Then its area's route is cut down to one step and the
areas are read again. -/
def shortened (now : Instant) : List (Event Tables) :=
  ([.bootstrap, .initWorker "w1" none, .assignAccount "w1" none, .nextJob "w1" none none].map
    fun op => .perform op .none 0) ++
    [.edit { smallStore with
      areas := smallStore.areas.map ({ · with pokemonRoute := some "1 1" }) },
    .perform .reloadAreas .none now]

/-- When the worker is live at the reload, its part is cut anew and it goes on scanning. -/
theorem run_nextJob_live :
    let f := (Fleet.new smallSettings smallStore).run (shortened 0)
    0 ≤ smallSettings.unseen ∧
      Along (fun f e => f.stranded e = []) (Fleet.new smallSettings smallStore) (shortened 0) ∧
      ∃ x a, f.Ready "w1" none 0 x a ∧ ScansArea (f.nextJob .none "w1" none none 0) a.id := by
  intro f
  have hunseen : 0 ≤ smallSettings.unseen := by decide
  have halong : Along (fun f e => f.stranded e = []) (Fleet.new smallSettings smallStore)
      (shortened 0) := by decide +kernel
  have hx : (f.sessions.find? "w1").bind (·.area) = some 1 := by decide +kernel
  have ha : (f.areas.find? 1).any (!·.route.isEmpty) := by decide +kernel
  have hname : f.namedAccount "w1" none = some "ada" := by decide +kernel
  have hvalid : f.isValid "ada" 0 = .ok true := by decide +kernel
  obtain ⟨x, a, hready, -⟩ := Ready.of_eval hx ha hname hvalid
  exact ⟨hunseen, halong, x, a, hready, (run_nextJob smallSettings hunseen smallStore (shortened 0)
    .none "w1" none none 0 x a hready).2.2 halong⟩

/-- When the worker is stale at the reload and comes back, its next step is off the route. -/
theorem run_nextJob_stale :
    let f := (Fleet.new smallSettings smallStore).run (shortened 400000)
    ∃ x a, f.Ready "w1" none 400000 x a ∧ (f.nextJob .none "w1" none none 400000).1 =
      .error (.stepOutOfRange 1 "pokemon" 1 1) := by
  intro f
  have hx : (f.sessions.find? "w1").bind (·.area) = some 1 := by decide +kernel
  have ha : (f.areas.find? 1).any (!·.route.isEmpty) := by decide +kernel
  have hname : f.namedAccount "w1" none = some "ada" := by decide +kernel
  have hvalid : f.isValid "ada" 400000 = .ok true := by decide +kernel
  have hwalk : (f.sessions.find? "w1").bind (·.walk) = some ⟨⟨0, 3⟩, 1⟩ := by decide +kernel
  have hroute : (f.areas.find? 1).all fun a => a.route.length = 1 ∧
      (f.touch "w1" none 400000).dueQuestStep .none a 400000 = none := by decide +kernel
  obtain ⟨x, a, hready, hid⟩ := Ready.of_eval hx ha hname hvalid
  rw [← hid, hready.registered] at hroute
  obtain ⟨hlen, hq⟩ := of_decide_eq_true hroute
  rw [hready.session, Option.bind_some] at hwalk
  have hoff : (f.touch "w1" none 400000).OffRoute .none 400000 x a :=
    ⟨hq, _, hwalk, Nat.le_of_eq hlen⟩
  obtain ⟨w, hw, hjob⟩ := hready.stepOutOfRange hoff
  rw [Option.mem_def, hwalk] at hw
  cases hw
  rw [hid, hlen] at hjob
  exact ⟨x, a, hready, hjob⟩

end

end Fleet

end ScanFleet
