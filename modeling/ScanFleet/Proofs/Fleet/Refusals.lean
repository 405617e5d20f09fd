import ScanFleet.Proofs.Fleet.Breaker
import ScanFleet.Proofs.Fleet.Jobs

/-! Operations that are refused.  One that a worker asks for itself has noted that the worker was
seen before it fails, and does nothing more.  Any other leaves the fleet as it was, at most with a
question that it put to a service. -/

namespace ScanFleet

namespace Sessions

theorem filter_touch (s : Sessions) (id : String) (host : Option String) (now : Instant) :
    (s.touch id host now).list.filter (·.id ≠ id) = s.list.filter (·.id ≠ id) := by
  have hkeep : (s.list.map fun x => if x.id = id then x.touch host now else x).filter (·.id ≠ id) =
      s.list.filter (·.id ≠ id) := by
    rw [List.filter_map]
    have hsame : ((fun x : Session => decide (x.id ≠ id)) ∘ fun x =>
        if x.id = id then x.touch host now else x) = fun x => decide (x.id ≠ id) := by
      funext x
      by_cases hx : x.id = id <;> simp [hx, Session.touch]
    rw [hsame]
    refine (List.map_congr_left fun x hx => if_neg ?_).trans (List.map_id _)
    simpa using (List.mem_filter.mp hx).2
  rw [list_touch, List.filter_append, hkeep]
  split
  · exact List.append_nil _
  · simp [Session.touch, Session.new]

theorem next_touch (s : Sessions) (id : String) (host : Option String) (now : Instant) :
    (s.touch id host now).next = if (s.find? id).isSome then s.next else s.next + 1 := by
  unfold touch ensure
  cases s.find? id <;> rfl

end Sessions

namespace Fleet

variable {σ : Type}

/-- All that `g` has more than `f` is that a worker was seen: the worker has its session, or a new
one if it had none, with the time and the host of the visit. -/
structure OnlySaw (f : Fleet σ) (worker : String) (host : Option String) (now : Instant)
    (g : Fleet σ) : Prop where
  settings : g.settings = f.settings
  pool : g.pool = f.pool
  areas : g.areas = f.areas
  store : g.store = f.store
  calls : g.calls = f.calls
  caller : g.sessions.find? worker =
    some { (f.sessions.find? worker).getD (.new worker f.sessions.next now) with
      lastSeen := now
      host := host <|> ((f.sessions.find? worker).bind (·.host)) }
  others : g.sessions.list.filter (·.id ≠ worker) = f.sessions.list.filter (·.id ≠ worker)
  limits : g.sessions.limits = f.sessions.limits
  next : g.sessions.next =
    if (f.sessions.find? worker).isSome then f.sessions.next else f.sessions.next + 1

theorem onlySaw_touch (f : Fleet σ) (worker : String) (host : Option String) (now : Instant) :
    f.OnlySaw worker host now (f.touch worker host now) where
  settings := rfl
  pool := rfl
  areas := rfl
  store := rfl
  calls := rfl
  caller := by
    rw [touch, Sessions.find?_touch_eq, if_pos rfl]
    cases f.sessions.find? worker <;> rfl
  others := f.sessions.filter_touch worker host now
  limits := f.sessions.limits_touch worker host now
  next := f.sessions.next_touch worker host now

section Jobs

variable {f : Fleet σ} {services : Services} {worker : String} {a : Area} {now : Instant}
  {e : FleetError}

theorem locationAt_error {a : Area} {mode : Mode} {step : Nat}
    (h : a.locationAt mode step = .error e) :
    e = .stepOutOfRange a.id mode.text step (a.routeOf mode).length := by
  unfold Area.locationAt at h
  split at h
  · cases h
  · cases h
    rfl

theorem map_error {α β : Type} {r : Except FleetError α} {k : α → β} (h : r.map k = .error e) :
    r = .error e := by
  cases r with
  | ok => cases h
  | error => exact congrArg Except.error (Except.error.inj h)

/-- In an area, a worker fails for want of a step or of a part of the route alone. -/
theorem pokemonJob_error (h : (f.pokemonJob worker a now).1 = .error e) :
    (∃ area k length, e = .stepOutOfRange area Mode.pokemon.text k length) ∨
      e = .noTaskAvailable worker := by
  unfold pokemonJob at h
  generalize (if f.hasWalk worker then f else (f.recalculate a.id now).2) = g at h
  dsimp only at h
  split at h
  · exact .inl ⟨_, _, _, locationAt_error (map_error h)⟩
  · exact .inr (Except.error.inj h).symm

theorem areaJob_error [Store σ] (h : (f.areaJob services worker a now).1 = .error e) :
    (∃ area text k length, e = .stepOutOfRange area text k length) ∨
      e = .noTaskAvailable worker := by
  unfold areaJob at h
  dsimp only at h
  split at h
  · exact .inl ⟨_, _, _, _, locationAt_error (map_error h)⟩
  · exact (pokemonJob_error h).imp_left fun ⟨area, k, length, he⟩ => ⟨area, _, k, length, he⟩

end Jobs

section Visits

variable [Store σ] {f : Fleet σ} {services : Services} {worker : String} {host : Option String}
  {now : Instant} {e : FleetError}

theorem initWorker_error (h : (f.initWorker worker host now).1 = .error e) :
    (f.initWorker worker host now).2 = f.touch worker host now := by
  rcases f.initWorker_cases worker host now with ⟨_, hr⟩ | ⟨_, hr⟩ | ⟨_, -, -, hr⟩ <;>
    rw [hr] at h ⊢
  all_goals cases h

theorem assignAccount_error (h : (f.assignAccount worker host now).1 = .error e) :
    (f.assignAccount worker host now).2 = f.touch worker host now := by
  rcases f.assignAccount_cases worker host now with ⟨_, hr⟩ | ⟨_, _, -, -, hr⟩ <;> rw [hr] at h ⊢
  cases h

theorem nextJob_error {username : Option String}
    (h : (f.nextJob services worker username host now).1 = .error e)
    (he : (∃ name, e = .accountNotFound name) ∨ ∃ name, e = .noAreaAllocated name) :
    (f.nextJob services worker username host now).2 = f.touch worker host now := by
  unfold nextJob at h ⊢
  dsimp only at h ⊢
  split
  next => rfl
  next name hname =>
    rw [hname] at h
    dsimp only at h
    split
    next => rfl
    next => rfl
    next hvalid =>
      rw [hvalid] at h
      dsimp only at h
      split
      next => rfl
      next a ha =>
        rw [ha] at h
        -- past these guards the worker fails for other causes
        rcases areaJob_error h with ⟨_, _, _, _, rfl⟩ | rfl <;>
          rcases he with ⟨_, he⟩ | ⟨_, he⟩ <;> cases he

end Visits

section Others

variable [Store σ] {f : Fleet σ} {services : Services} {now : Instant} {e : FleetError}

theorem reportAccount_error {username : String} {event : AccountEvent}
    (h : (f.reportAccount username event now).1 = .error e) :
    (f.reportAccount username event now).2 = f := by
  unfold reportAccount at h ⊢
  split
  next hexists =>
    rw [if_pos hexists] at h
    cases h
  next => rfl

theorem tutorialDone_error {worker : String} (h : (f.tutorialDone worker).1 = .error e) :
    (f.tutorialDone worker).2 = f := by
  unfold tutorialDone at h ⊢
  cases haccount : f.accountOf worker with
  | error => rfl
  | ok username =>
    rw [haccount] at h
    dsimp only at h ⊢
    split
    next hexists =>
      rw [if_pos hexists] at h
      cases h
    next => rfl

theorem logout_error {worker : String} (h : (f.logout worker now).1 = .error e) :
    (f.logout worker now).2 = f := by
  unfold logout at h ⊢
  cases hfind : f.sessions.find? worker with
  | some s =>
    rw [hfind] at h
    cases h
  | none =>
    rw [hfind] at h
    dsimp only at h ⊢
    split
    next => rfl
    next => rfl
    next d hd =>
      rw [hd] at h
      cases h

omit [Store σ] in
theorem startQuesting_error {area : Int} (h : (f.startQuesting services area).1 = .error e) :
    (f.startQuesting services area).2 = f := by
  unfold startQuesting at h ⊢
  split
  next => rfl
  next a ha =>
    rw [ha] at h
    cases h

/-- A failed rebuild has put a question to the calculator at most. -/
theorem rebuildQuestRoute_error {area : Int}
    (h : (f.rebuildQuestRoute services area).1 = .error e) :
    ∃ calls, (f.rebuildQuestRoute services area).2 = f.ask calls := by
  unfold rebuildQuestRoute at h ⊢
  split
  next => exact ⟨[], congrArg (Fleet.mk _ _ _ _ _) (List.append_nil _).symm⟩
  next a ha =>
    rw [ha] at h
    dsimp only at h ⊢
    split
    next => exact ⟨_, rfl⟩
    next route hroute =>
      rw [hroute] at h
      cases h

theorem reloadAccounts_error (h : f.reloadAccounts.1 = .error e) : f.reloadAccounts.2 = f := by
  unfold reloadAccounts at h ⊢
  split
  next => rfl
  next rows hrows =>
    rw [hrows] at h
    cases h

theorem reloadAreas_error (h : (f.reloadAreas now).1 = .error e) :
    (f.reloadAreas now).2 = f := by
  unfold reloadAreas at h ⊢
  split
  next => rfl
  next rows hrows =>
    rw [hrows] at h
    cases h

end Others

/-- An operation that is refused changes nothing.  Only a visit of a worker is noted before the
refusal, and the questions that a rebuild has put to services stay asked. -/
theorem refused_unchanged [Store σ] (f : Fleet σ) (services : Services) (now : Instant)
    (worker username : String) (host named : Option String) (event : AccountEvent) (area : Int)
    (e : FleetError) :
    ((f.initWorker worker host now).1 = .error e →
      f.OnlySaw worker host now (f.initWorker worker host now).2) ∧
    ((f.assignAccount worker host now).1 = .error e →
      f.OnlySaw worker host now (f.assignAccount worker host now).2) ∧
    ((f.nextJob services worker named host now).1 = .error e →
      ((∃ name, e = .accountNotFound name) ∨ ∃ name, e = .noAreaAllocated name) →
      f.OnlySaw worker host now (f.nextJob services worker named host now).2) ∧
    ((f.reportAccount username event now).1 = .error e →
      (f.reportAccount username event now).2 = f) ∧
    ((f.tutorialDone worker).1 = .error e → (f.tutorialDone worker).2 = f) ∧
    ((f.logout worker now).1 = .error e → (f.logout worker now).2 = f) ∧
    ((f.startQuesting services area).1 = .error e → (f.startQuesting services area).2 = f) ∧
    ((f.rebuildQuestRoute services area).1 = .error e →
      ∃ calls, (f.rebuildQuestRoute services area).2 = f.ask calls) ∧
    (f.reloadAccounts.1 = .error e → f.reloadAccounts.2 = f) ∧
    ((f.reloadAreas now).1 = .error e → (f.reloadAreas now).2 = f) := by
  have hsaw := f.onlySaw_touch worker host now
  refine ⟨fun h => ?_, fun h => ?_, fun h he => ?_, reportAccount_error, tutorialDone_error,
    logout_error, startQuesting_error, rebuildQuestRoute_error, reloadAccounts_error,
    reloadAreas_error⟩
  · rwa [initWorker_error h]
  · rwa [assignAccount_error h]
  · rwa [nextJob_error h he]

/-- A store that nobody reaches. -/
structure OutOfReach where

instance : Store OutOfReach where
  loadAccounts _ := .error (.store "no connection")
  insertAccounts _ s := (.error (.store "no connection"), s)
  releaseAll _ s := (.error (.store "no connection"), s)
  loadAreas _ := .error (.store "no connection")
  findDevice _ _ := .error (.store "no connection")
  write _ s := (.error (.store "no connection"), s)

def unreachable : Fleet OutOfReach := Fleet.new smallSettings ⟨⟩

/-- A worker is in an area that wants no more workers, and there are no accounts. -/
def fullArea : Fleet Tables :=
  (Fleet.new smallSettings { smallStore with
    accounts := []
    areas := smallStore.areas.map ({ · with pokemonWorkers := 1 }) }).run
    [.perform .bootstrap .none 0, .perform (.initWorker "w1" none) .none 10]

theorem refused_unchanged_fullArea :
    (fullArea.initWorker "w2" (some "host") 20).1 = .error .noAreaNeedsWorkers ∧
    fullArea.OnlySaw "w2" (some "host") 20 (fullArea.initWorker "w2" (some "host") 20).2 ∧
    (fullArea.assignAccount "w1" none 20).1 = .error .noAccountAvailable ∧
    fullArea.OnlySaw "w1" none 20 (fullArea.assignAccount "w1" none 20).2 ∧
    (fullArea.nextJob .none "w1" (some "ada") none 20).1 = .error (.accountNotFound "ada") ∧
    fullArea.OnlySaw "w1" none 20 (fullArea.nextJob .none "w1" (some "ada") none 20).2 ∧
    (fullArea.reportAccount "ada" .banned 20).2 = fullArea ∧
    (fullArea.startQuesting .none 2).2 = fullArea ∧
    (∃ calls, (fullArea.rebuildQuestRoute .none 1).2 = fullArea.ask calls) ∧
    (unreachable.tutorialDone "w1").2 = unreachable ∧
    (unreachable.logout "w1" 20).2 = unreachable ∧
    unreachable.reloadAccounts.2 = unreachable ∧
    (unreachable.reloadAreas 20).2 = unreachable := by
  have hinit : (fullArea.initWorker "w2" (some "host") 20).1 = .error .noAreaNeedsWorkers := by
    decide +kernel
  have hassign : (fullArea.assignAccount "w1" none 20).1 = .error .noAccountAvailable := by
    decide +kernel
  have hjob : (fullArea.nextJob .none "w1" (some "ada") none 20).1 =
      .error (.accountNotFound "ada") := by
    have hname : (fullArea.touch "w1" none 20).namedAccount "w1" (some "ada") = some "ada" := by
      decide +kernel
    have hvalid : (fullArea.touch "w1" none 20).isValid "ada" 20 =
        .error (.accountNotFound "ada") := by decide +kernel
    simp only [nextJob, hname, hvalid]
  have hfull (worker : String) (host named : Option String) :=
    refused_unchanged fullArea .none 20 worker "ada" host named .banned
  obtain ⟨hsaw, -⟩ := hfull "w2" (some "host") none 1 .noAreaNeedsWorkers
  obtain ⟨-, hnone, -⟩ := hfull "w1" none none 1 .noAccountAvailable
  obtain ⟨-, -, hunknown, hreport, -⟩ := hfull "w1" none (some "ada") 1 (.accountNotFound "ada")
  obtain ⟨-, -, -, -, -, -, hstart, -⟩ := hfull "w1" none none 2 (.areaNotFound 2)
  obtain ⟨-, -, -, -, -, -, -, hrebuild, -⟩ := hfull "w1" none none 1
    (.routeCalculation "no route calculator configured")
  obtain ⟨-, -, -, -, hdone, hlogout, -, -, haccounts, hareas⟩ :=
    refused_unchanged unreachable .none 20 "w1" "ada" none none .banned 1 (.store "no connection")
  exact ⟨hinit, hsaw hinit, hassign, hnone hassign, hjob, hunknown hjob (.inl ⟨_, rfl⟩),
    hreport (by decide +kernel), hstart rfl, hrebuild rfl, hdone rfl, hlogout rfl, haccounts rfl,
    hareas rfl⟩

end Fleet

end ScanFleet
