import ScanFleet.Fleet.Accounts
import ScanFleet.Fleet.Quests

/-! What workers ask of a fleet: an area, an account, the next thing to do, and to be forgotten. -/

namespace ScanFleet

/-- What a worker is told to do next. -/
inductive Job where
  | scanPokemon (place : Location) (minLevel maxLevel : Int)
  | scanQuest (place : Location) (minLevel maxLevel : Int)
  | switchAccount (minLevel maxLevel : Int)
deriving Inhabited

/-- A worker's report of the messages it handled. -/
structure RawReport where
  worker : String
  username : Option String
  level : Int
  methods : List MessageType
deriving DecidableEq, Repr

namespace Fleet

variable {σ : Type} [Store σ]

/-- Binds a worker to an area.  The area's route is cut anew when the binding is new. -/
def initWorker (f : Fleet σ) (worker : String) (host : Option String) (now : Instant) :
    Except FleetError Int × Fleet σ :=
  let f := f.touch worker host now
  match f.areas.allocate worker now f.settings.unseen f.sessions with
  | (.error e, _) => (.error e, f)
  | (.ok (a, isNew), sessions) =>
    let f := { f with sessions }
    let f := if isNew then (f.recalculate a.id now).2 else f
    (.ok a.id, f.persistDevice worker now)

def heartbeat (f : Fleet σ) (worker : String) (host : Option String) (now : Instant) : Fleet σ :=
  (f.touch worker host now).persistDevice worker now

/-- Binds a worker to an account; another account that it was bound to is given back. -/
def bindAccount (f : Fleet σ) (worker username : String) (now : Instant) : Fleet σ :=
  let displaced := (f.sessions.find? worker).bind (·.displaced username)
  let f := f.modifySession worker (·.bindAccount username)
  match displaced with
  | some previous => f.release previous now
  | none => f

/-- Selects an account for a worker that is bound to an area. -/
def assignAccount (f : Fleet σ) (worker : String) (host : Option String) (now : Instant) :
    Except FleetError Credentials × Fleet σ :=
  let f := f.touch worker host now
  match f.boundArea worker with
  | .error e => (.error e, f)
  | .ok a =>
    match f.allocate f.accepts now with
    | (none, f) => (.error .noAccountAvailable, f)
    | (some c, f) =>
      let f := f.bindAccount worker c.username now
      let f := (f.recalculate a.id now).2
      (.ok c, f.persistDevice worker now)

/-- The account that a worker names, or the one that it is bound to. -/
def namedAccount (f : Fleet σ) (worker : String) (username : Option String) : Option String :=
  username.filter (· != "") <|> f.boundAccount worker

/-- Whether a worker has a part of its area's route. -/
def hasWalk (f : Fleet σ) (worker : String) : Bool :=
  (f.sessions.find? worker).any (·.walk.isSome)

/-- The step that a worker scans next. -/
def stepOf (f : Fleet σ) (worker : String) : Nat :=
  ((f.sessions.find? worker).map (·.step)).getD 0

/-- The next step of the worker's part of the route of an area. -/
def pokemonJob (f : Fleet σ) (worker : String) (a : Area) (now : Instant) :
    Except FleetError Job × Fleet σ :=
  let f := if f.hasWalk worker then f else (f.recalculate a.id now).2
  if f.hasWalk worker then
    let step := f.stepOf worker
    let f := f.modifySession worker (·.advance)
    (((a.locationAt .pokemon step).map
      (.scanPokemon · f.settings.minLevel f.settings.maxLevel)), f)
  else (.error (.noTaskAvailable worker), f)

/-- What a worker in an area does next: a step of the quest pass while one runs, and else the next
step of its part of the route. -/
def areaJob (f : Fleet σ) (services : Services) (worker : String) (a : Area) (now : Instant) :
    Except FleetError Job × Fleet σ :=
  let f := f.checkQuests services a now
  let b := (f.areas.find? a.id).getD a
  match f.nextQuestStep a.id with
  | (some step, f) =>
    ((b.locationAt .quest step).map (.scanQuest · f.settings.minLevel f.settings.maxLevel), f)
  | (none, f) => f.pokemonJob worker b now

/-- What a worker does next.  It is told to switch accounts when the one it has may not be used. -/
def nextJob (f : Fleet σ) (services : Services) (worker : String) (username : Option String)
    (host : Option String) (now : Instant) : Except FleetError Job × Fleet σ :=
  let f := f.touch worker host now
  match f.namedAccount worker username with
  | none => (.error (.accountNotFound ""), f)
  | some name =>
    match f.isValid name now with
    | .error e => (.error e, f)
    | .ok false => (.ok (.switchAccount f.settings.minLevel f.settings.maxLevel), f)
    | .ok true =>
      match f.boundArea worker with
      | .error e => (.error e, f)
      | .ok a => f.areaJob services worker a now

/-- The account of a worker: that of its session, or else that of its stored device. -/
def accountOf (f : Fleet σ) (worker : String) : Except FleetError String :=
  match f.boundAccount worker with
  | some username => .ok username
  | none =>
    match Store.findDevice worker f.store with
    | .error e => .error e
    | .ok none => .error (.deviceNotFound worker)
    | .ok (some d) =>
      match d.username with
      | none => .error (.accountNotFound "")
      | some username => .ok username

/-- Notes that the account of a worker is through the tutorial. -/
def tutorialDone (f : Fleet σ) (worker : String) : Except FleetError Unit × Fleet σ :=
  match f.accountOf worker with
  | .error e => (.error e, f)
  | .ok username =>
    if f.pool.exists? username then (.ok (), f.markTutorialDone username)
    else (.error (.accountNotFound username), f)

/-- Forgets the session of a worker, gives its account back and cuts its area's route anew.  A
worker without a session must have a stored device. -/
def logout (f : Fleet σ) (worker : String) (now : Instant) : Except FleetError Unit × Fleet σ :=
  match f.sessions.find? worker with
  | none =>
    match Store.findDevice worker f.store with
    | .error e => (.error e, f)
    | .ok none => (.error (.deviceNotFound worker), f)
    | .ok (some _) => (.ok (), f.persist (.deviceAccount worker none))
  | some s =>
    let f := { f with sessions := f.sessions.remove worker }
    let f := match s.username with
      | some username => f.release username now
      | none => f
    let f := match s.area with
      | some area => (f.recalculate area now).2
      | none => f
    (.ok (), f.persist (.deviceAccount worker none))

/-- Takes a worker's account out of use after it reported too much; it is given back if the worker
was bound to it.  The result is the account. -/
def tripAccount (f : Fleet σ) (worker : String) (named : Option String) (now : Instant) :
    Option String × Fleet σ :=
  let bound := f.boundAccount worker
  let f := f.modifySession worker fun s => { s with usage := .zero, username := none }
  match bound, named with
  | some username, _ => (some username, (f.markDisabled username now).release username now)
  | none, some username => (some username, f.markDisabled username now)
  | none, none => (none, f)

/-- Counts the messages that a worker reports and notes its level.  When a ceiling is passed the
worker's account is taken out of use, and it is the result. -/
def recordRaw (f : Fleet σ) (report : RawReport) (host : Option String) (now : Instant) :
    Option String × Fleet σ :=
  let f := f.touch report.worker host now
  let named := f.namedAccount report.worker report.username
  let f := match named with
    | some username => if 0 < report.level then f.setLevel username report.level else f
    | none => f
  let f := f.modifySession report.worker fun s => { s with usage := s.usage.record report.methods }
  if (f.sessions.find? report.worker).any (f.sessions.limits.exceededBy ·.usage) then
    f.tripAccount report.worker named now
  else (none, f)

end Fleet

end ScanFleet
