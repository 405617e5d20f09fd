import ScanFleet.Account.Pool
import ScanFleet.Area.Registry
import ScanFleet.Store.Basic

/-! The state of a fleet: its settings, the pool of accounts, the sessions, the areas and the store.
What the store holds is written on the way and read at startup and at reloads only; a write that
fails changes nothing in memory. -/

namespace ScanFleet

/-- The settings of a fleet. -/
structure Settings where
  /-- A worker not seen for longer than this is stale. -/
  unseen : Span
  sweepInterval : Span
  rebuildInterval : Span
  /-- The local hour at which quest routes are rebuilt. -/
  rebuildHour : Nat
  minLevel : Int
  maxLevel : Int
  limits : UsageLimits
deriving DecidableEq, Repr, Inhabited

/-- A fleet over a store `σ`. -/
structure Fleet (σ : Type) where
  settings : Settings
  pool : Pool
  sessions : Sessions
  areas : Areas
  store : σ
  /-- The questions put to services so far. -/
  calls : List Call

namespace Fleet

variable {σ : Type}

/-- A fleet that has loaded nothing. -/
def new (settings : Settings) (store : σ) : Fleet σ where
  settings := settings
  pool := .empty
  sessions := .empty settings.limits
  areas := .empty
  store := store
  calls := []

/-- Notes questions put to services. -/
def ask (f : Fleet σ) (calls : List Call) : Fleet σ := { f with calls := f.calls ++ calls }

/-- Forgets the questions noted so far. -/
def forgetCalls (f : Fleet σ) : Fleet σ := { f with calls := [] }

/-- Writes to the store; a failure is passed over. -/
def persist [Store σ] (f : Fleet σ) (w : Write) : Fleet σ :=
  { f with store := (Store.write w f.store).2 }

/-- Changes the session of a worker. -/
def modifySession (f : Fleet σ) (worker : String) (g : Session → Session) : Fleet σ :=
  { f with sessions := f.sessions.modify worker g }

/-- Notes that a worker was seen. -/
def touch (f : Fleet σ) (worker : String) (host : Option String) (now : Instant) : Fleet σ :=
  { f with sessions := f.sessions.touch worker host now }

/-- The account that a worker is bound to. -/
def boundAccount (f : Fleet σ) (worker : String) : Option String :=
  (f.sessions.find? worker).bind (·.username)

/-- The area that a worker is bound to, if that exists. -/
def boundArea (f : Fleet σ) (worker : String) : Except FleetError Area :=
  match ((f.sessions.find? worker).bind (·.area)).bind f.areas.find? with
  | some a => .ok a
  | none => .error (.noAreaAllocated worker)

/-- The workers bound to an area, in the order of their sessions. -/
def workersOf (f : Fleet σ) (area : Int) : List String := (f.sessions.inArea area).map (·.id)

/-- Whether an account has the wanted level. -/
def accepts (f : Fleet σ) (a : Account) : Bool :=
  a.hasLevelBetween f.settings.minLevel f.settings.maxLevel

/-- Cuts the route of an area anew; the result is the number of its live workers. -/
def recalculate (f : Fleet σ) (area : Int) (now : Instant) : Nat × Fleet σ :=
  match f.areas.find? area with
  | none => (0, f)
  | some a =>
    let (live, a, sessions) := a.recalculate (f.workersOf area) now f.settings.unseen f.sessions
    (live, { f with areas := f.areas.replace a, sessions })

/-- Stores where a worker is bound and when it was seen. -/
def persistDevice [Store σ] (f : Fleet σ) (worker : String) (now : Instant) : Fleet σ :=
  match f.sessions.find? worker with
  | none => f
  | some s => f.persist (.device ⟨worker, s.area, s.username, s.host, now⟩)

end Fleet

end ScanFleet
