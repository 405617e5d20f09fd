import Mathlib.Logic.Relation
import ScanFleet.Fleet.Upkeep
import ScanFleet.Fleet.Workers
import ScanFleet.Proofs.Area.Registry
import ScanFleet.Proofs.Fleet.Accounts

/-! The moves that operations are made of.  A move is one change of the fleet's state: an account
marked, a worker seen, bound or moved on, a route cut, an area changed in place, an account granted,
or, when a worker reports its messages, these counted or its account taken away.  Every operation
but a logout and the loads is a sequence of moves, so what each move keeps, all of them keep.  The
moves of all operations but the report of messages are quiet. -/

namespace ScanFleet.Fleet

open Relation

variable {σ : Type}

theorem notes_ask (f : Fleet σ) (calls : List Call) : Notes f (f.ask calls) :=
  ⟨⟨rfl, rfl, rfl⟩, .refl f.pool⟩

theorem find?_boundArea {f : Fleet σ} {worker : String} {a : Area}
    (h : f.boundArea worker = .ok a) :
    ∃ s, f.sessions.find? worker = some s ∧ s.area = some a.id ∧
      f.areas.find? a.id = some a := by
  unfold boundArea at h
  split at h
  next b hb =>
    cases h
    obtain ⟨id, hid, ha⟩ := Option.bind_eq_some_iff.mp hb
    obtain ⟨s, hs, harea⟩ := Option.bind_eq_some_iff.mp hid
    have he := Areas.id_of_find? ha
    subst he
    exact ⟨s, hs, harea, ha⟩
  next => cases h

variable [Store σ]

/-- One change of a fleet at the time `now`, made without a report of messages. -/
inductive QuietMove (now : Instant) : Fleet σ → Fleet σ → Prop
  | note {f g : Fleet σ} (h : Notes f g) : QuietMove now f g
  | touch (f : Fleet σ) (worker : String) (host : Option String) :
      QuietMove now f (f.touch worker host now)
  | settle {f : Fleet σ} {worker : String} {area : Int} (harea : (f.areas.find? area).isSome)
      (hnone : ((f.sessions.find? worker).bind (·.area)).bind f.areas.find? = none) :
      QuietMove now f (f.modifySession worker (·.bindArea area))
  | recut (f : Fleet σ) (area : Int) : QuietMove now f (f.recalculate area now).2
  | advance (f : Fleet σ) (worker : String) : QuietMove now f (f.modifySession worker (·.advance))
  | renew {f : Fleet σ} {a b : Area} (ha : f.areas.find? a.id = some a) (hb : a.SamePlan b) :
      QuietMove now f { f with areas := f.areas.replace b }
  | grant {f : Fleet σ} {worker : String} {accept : Account → Bool} {c : Credentials}
      (hworker : (f.sessions.find? worker).isSome) (hc : (f.allocate accept now).1 = some c) :
      QuietMove now f ((f.allocate accept now).2.bindAccount worker c.username now)

/-- One change of a fleet at the time `now`. -/
inductive Move (now : Instant) : Fleet σ → Fleet σ → Prop
  | quiet {f g : Fleet σ} (h : QuietMove now f g) : Move now f g
  | count (f : Fleet σ) (worker : String) (kinds : List MessageType) :
      Move now f (f.modifySession worker fun s => { s with usage := s.usage.record kinds })
  | trip (f : Fleet σ) (worker : String) (named : Option String) :
      Move now f (f.tripAccount worker named now).2

abbrev QuietMoves (now : Instant) : Fleet σ → Fleet σ → Prop := ReflTransGen (QuietMove now)

abbrev Moves (now : Instant) : Fleet σ → Fleet σ → Prop := ReflTransGen (Move now)

/-- What every move keeps, a sequence of moves keeps. -/
theorem Moves.keep {now : Instant} {P : Fleet σ → Prop}
    (hP : ∀ {f g : Fleet σ}, P f → Move now f g → P g) {f g : Fleet σ} (h : Moves now f g)
    (hf : P f) : P g := by
  induction h with
  | refl => exact hf
  | tail _ hmove ih => exact hP ih hmove

theorem QuietMoves.moves {now : Instant} {f g : Fleet σ} (h : QuietMoves now f g) :
    Moves now f g :=
  ReflTransGen.mono (fun _ _ hmove => .quiet hmove) _ _ h

theorem Notes.quietMoves {f g : Fleet σ} (h : Notes f g) (now : Instant) : QuietMoves now f g :=
  .single (.note h)

variable (f : Fleet σ) (services : Services) (worker : String) (host : Option String)
  (now : Instant)

/-! ### Quests -/

theorem quietMoves_startQuesting (area : Int) :
    QuietMoves now f (f.startQuesting services area).2 := by
  unfold startQuesting
  split
  · exact .refl
  next a ha =>
    have hid := Areas.id_of_find? ha
    subst hid
    exact .tail (.single (.renew ha (a.samePlan_startQuesting services))) (.note (notes_ask _ _))

theorem quietMoves_checkQuests {a : Area} (ha : f.areas.find? a.id = some a) :
    QuietMoves now f (f.checkQuests services a now) := by
  unfold checkQuests
  dsimp only
  have hcheck : QuietMoves now f
      ({ f with areas := f.areas.replace (a.checkQuests services now).2 }.ask a.checkCalls) :=
    .tail (.single (.renew ha (a.samePlan_checkQuests services now))) (.note (notes_ask _ _))
  split
  · exact hcheck.trans (quietMoves_startQuesting _ _ _ _)
  · exact hcheck

theorem quietMoves_nextQuestStep (area : Int) : QuietMoves now f (f.nextQuestStep area).2 := by
  unfold nextQuestStep
  split
  · exact .refl
  next a ha =>
    have hid := Areas.id_of_find? ha
    subst hid
    exact .single (.renew ha a.samePlan_nextQuestStep)

theorem quietMoves_rebuildQuestRoute (area : Int) :
    QuietMoves now f (f.rebuildQuestRoute services area).2 := by
  unfold rebuildQuestRoute
  split
  · exact .refl
  next a ha =>
    have hid := Areas.id_of_find? ha
    subst hid
    dsimp only
    have hask : QuietMoves now f (f.ask (newQuestRouteCalls services a)) :=
      (notes_ask f (newQuestRouteCalls services a)).quietMoves now
    split
    · exact hask
    next route hroute =>
      refine .tail (.tail hask ?_) (.note (notes_persist _ _))
      exact .renew (a := a) ha (a.samePlan_setQuestRoute route)

theorem quietMoves_rebuildCounting (acc : Nat × Fleet σ) (area : Int) :
    QuietMoves now acc.2 (rebuildCounting services acc area).2 := by
  have h := quietMoves_rebuildQuestRoute acc.2 services now area
  unfold rebuildCounting
  split
  next hr => rwa [hr] at h
  next hr => rwa [hr] at h

theorem quietMoves_foldl {α : Type} {step : Nat × Fleet σ → α → Nat × Fleet σ}
    (hstep : ∀ acc x, QuietMoves now acc.2 (step acc x).2) (acc : Nat × Fleet σ) (l : List α) :
    QuietMoves now acc.2 (l.foldl step acc).2 := by
  induction l generalizing acc with
  | nil => exact .refl
  | cons x l ih => exact (hstep acc x).trans (ih _)

theorem quietMoves_rebuildDue : QuietMoves now f (f.rebuildDue services now).2 :=
  ((notes_ask f _).quietMoves now).trans
    (quietMoves_foldl now (quietMoves_rebuildCounting services now) (0, _) _)

/-! ### Upkeep -/

theorem quietMoves_sweepArea (acc : Nat × Fleet σ) (area : Int) :
    QuietMoves now acc.2 (sweepArea now acc area).2 := by
  have hpurge : QuietMoves now acc.2 (acc.2.purgeCaches area now) := by
    unfold purgeCaches
    split
    · exact .refl
    next a ha =>
      have hid := Areas.id_of_find? ha
      subst hid
      exact .single (.renew ha (a.samePlan_purgeCaches now))
  unfold sweepArea
  dsimp only
  split
  · exact hpurge.tail (.recut _ area)
  · exact hpurge

theorem quietMoves_sweep : QuietMoves now f (f.sweep now).2 :=
  quietMoves_foldl now (quietMoves_sweepArea now) (0, f) _

/-! ### Workers -/

/-- What a request for an area comes to.  The worker is seen and turned away, or it is seen and its
device is stored: it is in an area already, or it is bound to one whose route is cut anew. -/
theorem initWorker_cases :
    let seen := f.touch worker host now
    (∃ e, f.initWorker worker host now = (.error e, seen)) ∨
    (∃ area, f.initWorker worker host now = (.ok area, seen.persistDevice worker now)) ∨
    ∃ area, (seen.areas.find? area).isSome ∧
      ((seen.sessions.find? worker).bind (·.area)).bind seen.areas.find? = none ∧
      f.initWorker worker host now = (.ok area, ((seen.modifySession worker
        (·.bindArea area)).recalculate area now).2.persistDevice worker now) := by
  intro seen
  unfold initWorker
  dsimp only
  rcases seen.areas.allocate_cases worker now seen.settings.unseen seen.sessions with
    ⟨r, hr, hnew⟩ | ⟨a, hr, ha, hnone⟩
  · rw [hr]
    split
    next => exact .inl ⟨_, rfl⟩
    next a isNew sessions he =>
      cases he
      cases isNew with
      | true => exact absurd rfl (hnew a)
      | false => exact .inr (.inl ⟨a.id, rfl⟩)
  · rw [hr]
    exact .inr (.inr ⟨a.id, ha, hnone, rfl⟩)

/-- What a request for an account comes to.  The worker is seen and turned away, or it is granted
an account; then the route of its area is cut anew and its device is stored. -/
theorem assignAccount_cases :
    let seen := f.touch worker host now
    (∃ e, f.assignAccount worker host now = (.error e, seen)) ∨
    ∃ a c, seen.boundArea worker = .ok a ∧ (seen.allocate seen.accepts now).1 = some c ∧
      f.assignAccount worker host now = (.ok c,
        (((seen.allocate seen.accepts now).2.bindAccount worker c.username now).recalculate a.id
          now).2.persistDevice worker now) := by
  intro seen
  have hnone (h : (seen.allocate seen.accepts now).1 = none) := allocate_none h
  unfold assignAccount
  dsimp only
  split
  next => exact .inl ⟨_, rfl⟩
  next a ha =>
    change seen.boundArea worker = .ok a at ha
    generalize seen.allocate seen.accepts now = r at hnone ⊢
    obtain ⟨_ | c, g⟩ := r
    · exact .inl ⟨_, congrArg _ (hnone rfl)⟩
    · exact .inr ⟨a, c, ha, rfl, rfl⟩

theorem quietMoves_initWorker : QuietMoves now f (f.initWorker worker host now).2 := by
  have htouch : QuietMoves now f (f.touch worker host now) := .single (.touch f worker host)
  rcases f.initWorker_cases worker host now with ⟨_, hr⟩ | ⟨_, hr⟩ | ⟨area, ha, hnone, hr⟩ <;>
    rw [hr]
  · exact htouch
  · exact htouch.tail (.note (notes_persistDevice _ _ _))
  · exact ((htouch.tail (.settle ha hnone)).tail (.recut _ area)).tail
      (.note (notes_persistDevice _ _ _))

theorem quietMoves_heartbeat : QuietMoves now f (f.heartbeat worker host now) :=
  .tail (.single (.touch f worker host)) (.note (notes_persistDevice _ _ _))

theorem quietMoves_assignAccount : QuietMoves now f (f.assignAccount worker host now).2 := by
  have htouch : QuietMoves now f (f.touch worker host now) := .single (.touch f worker host)
  rcases f.assignAccount_cases worker host now with ⟨_, hr⟩ | ⟨a, c, ha, hc, hr⟩ <;> rw [hr]
  · exact htouch
  · obtain ⟨s, hs, -, -⟩ := find?_boundArea ha
    have hgrant : QuietMove now (f.touch worker host now) _ :=
      .grant (Option.isSome_of_eq_some hs) hc
    exact ((htouch.tail hgrant).tail (.recut _ a.id)).tail (.note (notes_persistDevice _ _ _))

theorem quietMoves_pokemonJob (a : Area) : QuietMoves now f (f.pokemonJob worker a now).2 := by
  have hrecut : QuietMoves now f (if f.hasWalk worker then f else (f.recalculate a.id now).2) := by
    split
    · exact .refl
    · exact .single (.recut f a.id)
  unfold pokemonJob
  extract_lets g
  split
  · exact ReflTransGen.tail hrecut (.advance g worker)
  · exact hrecut

theorem quietMoves_areaJob {a : Area} (ha : f.areas.find? a.id = some a) :
    QuietMoves now f (f.areaJob services worker a now).2 := by
  have hcheck := quietMoves_checkQuests f services now ha
  have hstep := hcheck.trans (quietMoves_nextQuestStep _ now a.id)
  unfold areaJob
  dsimp only
  split
  next hn => rwa [hn] at hstep
  next hn =>
    rw [hn] at hstep
    exact hstep.trans (quietMoves_pokemonJob _ _ _ _)

theorem quietMoves_nextJob (username : Option String) :
    QuietMoves now f (f.nextJob services worker username host now).2 := by
  have htouch : QuietMoves now f (f.touch worker host now) := .single (.touch f worker host)
  unfold nextJob
  dsimp only
  split
  · exact htouch
  · split
    · exact htouch
    · exact htouch
    · split
      · exact htouch
      next a ha =>
        obtain ⟨-, -, -, hfind⟩ := find?_boundArea ha
        exact htouch.trans (quietMoves_areaJob _ services worker now hfind)

theorem quietMoves_tutorialDone : QuietMoves now f (f.tutorialDone worker).2 := by
  unfold tutorialDone
  split
  · exact .refl
  · split
    · exact (notes_markTutorialDone _ _).quietMoves now
    · exact .refl

/-! ### Reports of messages -/

/-- The fleet after a worker that reports was seen and its level was noted. -/
def heard (report : RawReport) : Fleet σ :=
  let f := f.touch report.worker host now
  match f.namedAccount report.worker report.username with
  | some username => if 0 < report.level then f.setLevel username report.level else f
  | none => f

/-- The fleet after the messages of a report were counted as well. -/
def counted (report : RawReport) : Fleet σ :=
  (f.heard host now report).modifySession report.worker fun s =>
    { s with usage := s.usage.record report.methods }

/-- Whether a worker's counts pass a ceiling. -/
def isOverLimit (f : Fleet σ) (worker : String) : Bool :=
  (f.sessions.find? worker).any (f.sessions.limits.exceededBy ·.usage)

theorem recordRaw_eq (report : RawReport) :
    f.recordRaw report host now =
      if (f.counted host now report).isOverLimit report.worker then
        (f.counted host now report).tripAccount report.worker
          ((f.touch report.worker host now).namedAccount report.worker report.username) now
      else (none, f.counted host now report) := rfl

theorem quietMoves_heard (report : RawReport) : QuietMoves now f (f.heard host now report) := by
  have htouch : QuietMoves now f (f.touch report.worker host now) :=
    .single (.touch f report.worker host)
  unfold heard
  dsimp only
  split
  · split
    · exact htouch.tail (.note (notes_setLevel _ _ _))
    · exact htouch
  · exact htouch

theorem moves_recordRaw (report : RawReport) :
    Moves now f (f.recordRaw report host now).2 := by
  have hcount : Moves now f (f.counted host now report) :=
    (quietMoves_heard f host now report).moves.tail (.count _ report.worker report.methods)
  rw [recordRaw_eq]
  split
  · exact hcount.tail (.trip _ report.worker _)
  · exact hcount

end ScanFleet.Fleet
