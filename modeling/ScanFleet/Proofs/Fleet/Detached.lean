import ScanFleet.Proofs.Fleet.Run

/-! Fleets without their stores.  An operation that only writes to the store does the same to the
memory of the fleet, and has the same result, when there is no store at all.  So two runs of such
operations are the same in memory whatever becomes of their writes. -/

namespace ScanFleet

/-- The result of an operation. -/
inductive Answer where
  | startup (result : Except FleetError StartupCounts)
  | area (result : Except FleetError Int)
  | seen
  | credentials (result : Except FleetError Credentials)
  | job (result : Except FleetError Job)
  | noted (result : Except FleetError Unit)
  | tripped (account : Option String)
  | questing (result : Except FleetError Bool)
  | route (result : Except FleetError Route)
  | count (n : Nat)
  | reloaded (result : Except FleetError ReloadCounts)
  | imported (result : Except FleetError Nat)
  | changes (result : Except FleetError AreaChanges)

/-- An operation with the answers of the services and the time at which it is done. -/
structure Turn where
  operation : Operation
  services : Services
  now : Instant

/-- A store that keeps nothing. -/
instance : Store Unit where
  loadAccounts _ := .ok []
  insertAccounts _ t := (.ok 0, t)
  releaseAll _ t := (.ok 0, t)
  loadAreas _ := .ok []
  findDevice _ _ := .ok none
  write _ t := (.ok (), t)

namespace Fleet

variable {σ : Type}

/-- The memory of a fleet. -/
def detached (f : Fleet σ) : Fleet Unit where
  settings := f.settings
  pool := f.pool
  sessions := f.sessions
  areas := f.areas
  store := ()
  calls := f.calls

/-- A result with the memory of the fleet that comes with it. -/
def inMemory {α : Type} (r : α × Fleet σ) : α × Fleet Unit := (r.1, r.2.detached)

section Respond

variable [Store σ]

/-- The result of an operation and the fleet after it. -/
def respond (f : Fleet σ) (services : Services) (now : Instant) : Operation → Answer × Fleet σ
  | .bootstrap => (f.bootstrap now).map .startup id
  | .initWorker worker host => (f.initWorker worker host now).map .area id
  | .heartbeat worker host => (.seen, f.heartbeat worker host now)
  | .assignAccount worker host => (f.assignAccount worker host now).map .credentials id
  | .nextJob worker username host =>
    (f.nextJob services worker username host now).map .job id
  | .reportAccount username event => (f.reportAccount username event now).map .noted id
  | .tutorialDone worker => (f.tutorialDone worker).map .noted id
  | .recordRaw report host => (f.recordRaw report host now).map .tripped id
  | .logout worker => (f.logout worker now).map .noted id
  | .startQuesting area => (f.startQuesting services area).map .questing id
  | .rebuildQuestRoute area => (f.rebuildQuestRoute services area).map .route id
  | .rebuildDue => (f.rebuildDue services now).map .count id
  | .sweep => (f.sweep now).map .count id
  | .reloadAccounts => f.reloadAccounts.map .reloaded id
  | .importAccounts accounts => (f.importAccounts accounts).map .imported id
  | .reloadAreas => (f.reloadAreas now).map .changes id

theorem respond_snd (f : Fleet σ) (services : Services) (now : Instant) (op : Operation) :
    (f.respond services now op).2 = f.perform services now op := by
  cases op <;> rfl

/-- An operation asks the store for nothing. -/
def OnlyWrites (f : Fleet σ) : Operation → Prop
  | .bootstrap | .reloadAccounts | .importAccounts _ | .reloadAreas => False
  | .tutorialDone worker => (f.boundAccount worker).isSome
  | .logout worker => (f.sessions.find? worker).isSome
  | _ => True

end Respond

/-! ### The memory that operations read -/

theorem inMemory_map {α β : Type} (k : α → β) {r : α × Fleet σ} {s : α × Fleet Unit}
    (h : inMemory r = s) : inMemory (r.map k id) = s.map k id := by
  rw [← h]
  rfl

section Memory

variable (f : Fleet σ)

@[simp] theorem settings_detached : f.detached.settings = f.settings := rfl

@[simp] theorem pool_detached : f.detached.pool = f.pool := rfl

@[simp] theorem sessions_detached : f.detached.sessions = f.sessions := rfl

@[simp] theorem areas_detached : f.detached.areas = f.areas := rfl

@[simp] theorem touch_detached (worker : String) (host : Option String) (now : Instant) :
    f.detached.touch worker host now = (f.touch worker host now).detached := rfl

@[simp] theorem accepts_detached : f.detached.accepts = f.accepts := rfl

@[simp] theorem boundAccount_detached (worker : String) :
    f.detached.boundAccount worker = f.boundAccount worker := rfl

@[simp] theorem boundArea_detached (worker : String) :
    f.detached.boundArea worker = f.boundArea worker := rfl

@[simp] theorem namedAccount_detached (worker : String) (username : Option String) :
    f.detached.namedAccount worker username = f.namedAccount worker username := rfl

end Memory

/-! ### Routes and quests -/

section Routes

variable (f : Fleet σ)

theorem inMemory_recalculate (area : Int) (now : Instant) :
    inMemory (f.recalculate area now) = f.detached.recalculate area now := by
  simp only [recalculate, areas_detached]
  cases f.areas.find? area <;> rfl

theorem detached_recalculate (area : Int) (now : Instant) :
    (f.recalculate area now).2.detached = (f.detached.recalculate area now).2 :=
  congrArg Prod.snd (f.inMemory_recalculate area now)

theorem inMemory_startQuesting (services : Services) (area : Int) :
    inMemory (f.startQuesting services area) = f.detached.startQuesting services area := by
  simp only [startQuesting, areas_detached]
  cases f.areas.find? area <;> rfl

theorem detached_checkQuests (services : Services) (a : Area) (now : Instant) :
    (f.checkQuests services a now).detached = f.detached.checkQuests services a now := by
  unfold checkQuests
  rcases a.checkQuests services now with ⟨_ | _, b⟩
  · rfl
  · exact congrArg Prod.snd (inMemory_startQuesting
      ({ f with areas := f.areas.replace b }.ask a.checkCalls) services a.id)

theorem inMemory_nextQuestStep (area : Int) :
    inMemory (f.nextQuestStep area) = f.detached.nextQuestStep area := by
  simp only [nextQuestStep, areas_detached]
  cases f.areas.find? area <;> rfl

theorem detached_purgeCaches (area : Int) (now : Instant) :
    (f.purgeCaches area now).detached = f.detached.purgeCaches area now := by
  simp only [purgeCaches, areas_detached]
  cases f.areas.find? area <;> rfl

theorem inMemory_sweep (now : Instant) : inMemory (f.sweep now) = f.detached.sweep now := by
  have hstep (acc : Nat × Fleet σ) (area : Int) :
      sweepArea now (inMemory acc) area = inMemory (sweepArea now acc area) := by
    have hstale (g : Fleet σ) : g.detached.hasStaleWalk area now = g.hasStaleWalk area now := rfl
    simp only [sweepArea, inMemory, ← detached_purgeCaches, hstale, ← detached_recalculate]
    cases (acc.2.purgeCaches area now).hasStaleWalk area now <;> rfl
  exact (List.foldl_hom inMemory hstep).symm

theorem inMemory_pokemonJob (worker : String) (a : Area) (now : Instant) :
    inMemory (f.pokemonJob worker a now) = f.detached.pokemonJob worker a now := by
  have hwalk (g : Fleet σ) : g.detached.hasWalk worker = g.hasWalk worker := rfl
  simp only [pokemonJob, hwalk, ← detached_recalculate]
  -- The fleet with the part that the worker needs, whether it has to be cut or not.
  have hcut : (if f.hasWalk worker then f.detached else (f.recalculate a.id now).2.detached) =
      (if f.hasWalk worker then f else (f.recalculate a.id now).2).detached :=
    (apply_ite detached _ _ _).symm
  rw [hcut, hwalk]
  generalize (if f.hasWalk worker then f else (f.recalculate a.id now).2) = g
  cases g.hasWalk worker <;> rfl

theorem inMemory_areaJob (services : Services) (worker : String) (a : Area) (now : Instant) :
    inMemory (f.areaJob services worker a now) = f.detached.areaJob services worker a now := by
  simp only [areaJob, ← detached_checkQuests, areas_detached, ← inMemory_nextQuestStep]
  rcases (f.checkQuests services a now).nextQuestStep a.id with ⟨_ | step, g⟩
  · exact g.inMemory_pokemonJob worker _ now
  · rfl

theorem inMemory_nextJob (services : Services) (worker : String) (username host : Option String)
    (now : Instant) :
    inMemory (f.nextJob services worker username host now) =
      f.detached.nextJob services worker username host now := by
  have hvalid (g : Fleet σ) (u : String) : g.detached.isValid u now = g.isValid u now := rfl
  simp only [nextJob, touch_detached, namedAccount_detached, hvalid, boundArea_detached,
    ← inMemory_areaJob, settings_detached]
  generalize f.touch worker host now = g
  cases g.namedAccount worker username with
  | none => rfl
  | some u =>
    dsimp only
    rcases g.isValid u now with _ | _ | _
    · rfl
    · rfl
    · dsimp only
      cases g.boundArea worker <;> rfl

end Routes

section Operations

variable [Store σ] (f : Fleet σ)

theorem inMemory_rebuildQuestRoute (services : Services) (area : Int) :
    inMemory (f.rebuildQuestRoute services area) = f.detached.rebuildQuestRoute services area := by
  simp only [rebuildQuestRoute, areas_detached]
  cases f.areas.find? area with
  | none => rfl
  | some a =>
    dsimp only
    cases newQuestRoute services a <;> rfl

theorem inMemory_rebuildDue (services : Services) (now : Instant) :
    inMemory (f.rebuildDue services now) = f.detached.rebuildDue services now := by
  have hstep (acc : Nat × Fleet σ) (area : Int) :
      rebuildCounting services (inMemory acc) area =
        inMemory (rebuildCounting services acc area) := by
    simp only [rebuildCounting, inMemory, ← inMemory_rebuildQuestRoute]
    rcases acc.2.rebuildQuestRoute services area with ⟨_ | _, g⟩ <;> rfl
  exact (List.foldl_hom inMemory hstep).symm

/-! ### Accounts -/

theorem inMemory_allocate (accept : Account → Bool) (now : Instant) :
    inMemory (f.allocate accept now) = f.detached.allocate accept now := by
  simp only [allocate, pool_detached]
  rcases f.pool.allocate accept now with ⟨_ | c, pool⟩ <;> rfl

theorem detached_setLevel (u : String) (level : Int) :
    (f.setLevel u level).detached = f.detached.setLevel u level := by
  simp only [setLevel, pool_detached]
  cases f.pool.find? u with
  | none => rfl
  | some a =>
    dsimp only
    split <;> rfl

theorem detached_markTutorialDone (u : String) :
    (f.markTutorialDone u).detached = f.detached.markTutorialDone u := by
  simp only [markTutorialDone, pool_detached]
  cases f.pool.find? u <;> rfl

theorem inMemory_reportAccount (u : String) (event : AccountEvent) (now : Instant) :
    inMemory (f.reportAccount u event now) = f.detached.reportAccount u event now := by
  by_cases hex : f.pool.exists? u
  · simp only [reportAccount, pool_detached, hex, if_true]
    cases event <;> rfl
  · simp only [reportAccount, pool_detached, hex]
    rfl

theorem detached_bindAccount (worker u : String) (now : Instant) :
    (f.bindAccount worker u now).detached = f.detached.bindAccount worker u now := by
  simp only [bindAccount, sessions_detached]
  cases (f.sessions.find? worker).bind (·.displaced u) <;> rfl

theorem inMemory_tripAccount (worker : String) (named : Option String) (now : Instant) :
    inMemory (f.tripAccount worker named now) = f.detached.tripAccount worker named now := by
  simp only [tripAccount, boundAccount_detached]
  cases f.boundAccount worker with
  | some u => rfl
  | none => cases named <;> rfl

/-! ### Workers -/

theorem detached_persistDevice (worker : String) (now : Instant) :
    (f.persistDevice worker now).detached = f.detached.persistDevice worker now := by
  simp only [persistDevice, sessions_detached]
  cases f.sessions.find? worker <;> rfl

theorem inMemory_initWorker (worker : String) (host : Option String) (now : Instant) :
    inMemory (f.initWorker worker host now) = f.detached.initWorker worker host now := by
  simp only [initWorker, touch_detached, areas_detached, settings_detached, sessions_detached]
  generalize f.touch worker host now = g
  rcases g.areas.allocate worker now g.settings.unseen g.sessions with ⟨_ | ⟨a, isNew⟩, sessions⟩
  · rfl
  · cases isNew with
    | false => exact congrArg _ (detached_persistDevice { g with sessions } worker now)
    | true =>
      have hcut := detached_recalculate { g with sessions } a.id now
      have hdevice := detached_persistDevice
        (Fleet.recalculate { g with sessions } a.id now).2 worker now
      rw [hcut] at hdevice
      exact congrArg _ hdevice

theorem inMemory_assignAccount (worker : String) (host : Option String) (now : Instant) :
    inMemory (f.assignAccount worker host now) = f.detached.assignAccount worker host now := by
  simp only [assignAccount, touch_detached, boundArea_detached, accepts_detached,
    ← inMemory_allocate]
  generalize f.touch worker host now = g
  cases g.boundArea worker with
  | error e => rfl
  | ok a =>
    dsimp only
    rcases g.allocate g.accepts now with ⟨_ | c, h⟩
    · rfl
    · simp only [inMemory, detached_persistDevice, detached_recalculate, detached_bindAccount]

theorem inMemory_recordRaw (report : RawReport) (host : Option String) (now : Instant) :
    inMemory (f.recordRaw report host now) = f.detached.recordRaw report host now := by
  unfold recordRaw
  extract_lets g named h k g' named' h' k'
  have hnamed : named' = named := rfl
  have hlevel : h' = h.detached := by
    simp only [h', h, hnamed]
    clear_value named
    cases named with
    | none => rfl
    | some u =>
      dsimp only
      split
      · exact (detached_setLevel g u report.level).symm
      · rfl
  have hcount : k' = k.detached := by
    simp only [k', hlevel]
    rfl
  rw [hcount, hnamed, sessions_detached]
  by_cases hex : (k.sessions.find? report.worker).any (k.sessions.limits.exceededBy ·.usage)
  · rw [if_pos hex, if_pos hex]
    exact k.inMemory_tripAccount report.worker named now
  · rw [if_neg hex, if_neg hex]
    rfl

theorem inMemory_tutorialDone {worker : String} (h : (f.boundAccount worker).isSome) :
    inMemory (f.tutorialDone worker) = f.detached.tutorialDone worker := by
  obtain ⟨u, hu⟩ := Option.isSome_iff_exists.mp h
  simp only [tutorialDone, accountOf, boundAccount_detached, hu, pool_detached,
    ← detached_markTutorialDone]
  cases f.pool.exists? u <;> rfl

theorem detached_forget (s : Session) (now : Instant) :
    (f.forget s now).detached = f.detached.forget s now := by
  unfold forget
  cases s.username <;> rfl

theorem inMemory_logout {worker : String} (h : (f.sessions.find? worker).isSome)
    (now : Instant) : inMemory (f.logout worker now) = f.detached.logout worker now := by
  obtain ⟨s, hs⟩ := Option.isSome_iff_exists.mp h
  have hfst {ρ : Type} [Store ρ] {g : Fleet ρ} (hg : g.sessions.find? worker = some s) :
      (g.logout worker now).1 = .ok () := by
    simp only [logout, hg]
  have hsnd := logout_snd (f := f.detached) hs now
  refine Prod.ext ((hfst hs).trans (hfst (g := f.detached) hs).symm) ?_
  rw [hsnd, inMemory, logout_snd hs, ← detached_forget]
  cases s.area with
  | none => rfl
  | some area => exact detached_recalculate (f.forget s now) area now

/-- An operation that asks the store for nothing does the same without it. -/
theorem inMemory_respond {op : Operation} (h : f.OnlyWrites op) (services : Services)
    (now : Instant) :
    inMemory (f.respond services now op) = f.detached.respond services now op := by
  cases op with
  | initWorker worker host => exact inMemory_map _ (f.inMemory_initWorker worker host now)
  | heartbeat worker host =>
    exact congrArg _ (detached_persistDevice (f.touch worker host now) worker now)
  | assignAccount worker host => exact inMemory_map _ (f.inMemory_assignAccount worker host now)
  | nextJob worker username host =>
    exact inMemory_map _ (f.inMemory_nextJob services worker username host now)
  | reportAccount username event =>
    exact inMemory_map _ (f.inMemory_reportAccount username event now)
  | tutorialDone worker => exact inMemory_map _ (f.inMemory_tutorialDone h)
  | recordRaw report host => exact inMemory_map _ (f.inMemory_recordRaw report host now)
  | logout worker => exact inMemory_map _ (f.inMemory_logout h now)
  | startQuesting area => exact inMemory_map _ (f.inMemory_startQuesting services area)
  | rebuildQuestRoute area => exact inMemory_map _ (f.inMemory_rebuildQuestRoute services area)
  | rebuildDue => exact inMemory_map _ (f.inMemory_rebuildDue services now)
  | sweep => exact inMemory_map _ (f.inMemory_sweep now)
  | bootstrap | reloadAccounts | importAccounts | reloadAreas => exact h.elim

end Operations

/-! ### Runs -/

section Runs

variable [Store σ]

/-- What is seen of a run from outside of the store: each answer, and the memory after it. -/
def trace (f : Fleet σ) : List Turn → List (Answer × Fleet Unit)
  | [] => []
  | t :: turns =>
    let r := f.respond t.services t.now t.operation
    inMemory r :: r.2.trace turns

/-- The fleet after a run. -/
def follow (f : Fleet σ) (turns : List Turn) : Fleet σ :=
  turns.foldl (fun f t => f.perform t.services t.now t.operation) f

/-- No operation of a run asks the store for anything. -/
def AllOnlyWrite (f : Fleet σ) : List Turn → Prop
  | [] => True
  | t :: turns => f.OnlyWrites t.operation ∧
      (f.perform t.services t.now t.operation).AllOnlyWrite turns

theorem detached_perform {f : Fleet σ} {op : Operation} (h : f.OnlyWrites op)
    (services : Services) (now : Instant) :
    (f.perform services now op).detached = f.detached.perform services now op := by
  rw [← respond_snd, ← respond_snd, ← inMemory_respond f h]
  rfl

theorem allOnlyWrite_detached {f : Fleet σ} {turns : List Turn} :
    f.detached.AllOnlyWrite turns ↔ f.AllOnlyWrite turns := by
  induction turns generalizing f with
  | nil => rfl
  | cons t turns ih =>
    have hsame : f.detached.OnlyWrites t.operation ↔ f.OnlyWrites t.operation := by
      cases t.operation <;> rfl
    simp only [AllOnlyWrite, hsame]
    refine and_congr_right fun hop => ?_
    rw [← detached_perform hop]
    exact ih

/-- A run of operations that ask the store for nothing is the same in memory without it. -/
theorem trace_detached {f : Fleet σ} {turns : List Turn} (h : f.AllOnlyWrite turns) :
    f.trace turns = f.detached.trace turns := by
  induction turns generalizing f with
  | nil => rfl
  | cons t turns ih =>
    have hone := f.inMemory_respond h.1 t.services t.now
    have hrest := h.2
    rw [← respond_snd] at hrest
    simp only [trace]
    rw [ih hrest, ← hone]
    rfl

end Runs

end Fleet

/-! ### Lost writes -/

/-- A store some of whose writes are lost; `loses` tells which, by the number of writes before. -/
structure Unreliable (σ : Type) where
  store : σ
  loses : Nat → Bool
  writes : Nat

namespace Unreliable

variable {σ : Type}

/-- Makes a change, or loses it. -/
def attempt {α : Type} (s : Unreliable σ) (change : σ → Except FleetError α × σ) :
    Except FleetError α × Unreliable σ :=
  if s.loses s.writes then (.error (.store "write lost"), { s with writes := s.writes + 1 })
  else (change s.store).map id fun store => { s with store, writes := s.writes + 1 }

instance [Store σ] : Store (Unreliable σ) where
  loadAccounts s := Store.loadAccounts s.store
  insertAccounts accounts s := s.attempt (Store.insertAccounts accounts)
  releaseAll now s := s.attempt (Store.releaseAll now)
  loadAreas s := Store.loadAreas s.store
  findDevice worker s := Store.findDevice worker s.store
  write w s := s.attempt (Store.write w)

end Unreliable

namespace Fleet

variable {σ : Type}

/-- A fleet that loses some of its writes from now on. -/
def losing (f : Fleet σ) (loses : Nat → Bool) : Fleet (Unreliable σ) where
  settings := f.settings
  pool := f.pool
  sessions := f.sessions
  areas := f.areas
  store := ⟨f.store, loses, 0⟩
  calls := f.calls

/-- Whichever writes are lost, a run of operations that ask the store for nothing has the same
answers as if none were, and the same memory after each of them. -/
theorem trace_losing [Store σ] (f : Fleet σ) (loses : Nat → Bool) (turns : List Turn)
    (h : f.AllOnlyWrite turns) : (f.losing loses).trace turns = f.trace turns := by
  have hsame : (f.losing loses).detached = f.detached := rfl
  have hlosing : (f.losing loses).AllOnlyWrite turns := by
    rw [← allOnlyWrite_detached, hsame, allOnlyWrite_detached]
    exact h
  rw [trace_detached hlosing, trace_detached h, hsame]

/-- A worker gets an account and works, is warned and reports too much, gets no other account, and
is logged out. -/
def warnedShift : List Turn :=
  [.initWorker "w1" none, .assignAccount "w1" none, .nextJob "w1" none none,
    .reportAccount "ada" .warned, .nextJob "w1" none none, .recordRaw ⟨"w1", none, 31, [7, 7]⟩ none,
    .assignAccount "w1" none, .logout "w1"].map fun op => ⟨op, .none, 10⟩

/-- Nobody notices when every second write is lost, though other rows are left in the store. -/
theorem trace_losing_warnedShift :
    let f := ((Fleet.new smallSettings smallStore).bootstrap 0).2
    let g := f.losing fun n => n % 2 == 0
    f.AllOnlyWrite warnedShift ∧ g.trace warnedShift = f.trace warnedShift ∧
      (g.follow warnedShift).store.store.accounts ≠ (f.follow warnedShift).store.accounts := by
  intro f g
  have h : f.AllOnlyWrite warnedShift := by
    refine ⟨trivial, trivial, trivial, trivial, trivial, trivial, trivial, ?_, trivial⟩
    simp only [OnlyWrites]
    decide +kernel
  exact ⟨h, trace_losing f _ warnedShift h, by decide +kernel⟩

end Fleet

end ScanFleet
