import ScanFleet.Proofs.Fleet.Detached

/-! Requests that are handled at the same time.  A request goes from stage to stage, and between two
stages, where it lets go of a lock or waits for the store, other requests may go on.  It keeps the
session that it found when it began, and changes that session also after a logout removed it. -/

namespace ScanFleet.Traffic

/-- The requests of workers that bind accounts or give them back. -/
inductive Request where
  | account (worker : String) (host : Option String)
  | logout (worker : String)
  | report (report : RawReport) (host : Option String)

def Request.operation : Request → Operation
  | .account worker host => .assignAccount worker host
  | .logout worker => .logout worker
  | .report r host => .recordRaw r host

/-- What a request does next.  A session is referred to by its number. -/
inductive Stage where
  | start (request : Request)
  | findArea (session : Nat)
  | select (session : Nat) (area : Int)
  | bind (session : Nat) (area : Int) (c : Credentials)
  /-- Unbinds the account of a session that was removed. -/
  | unbind (session : Nat)
  /-- Unbinds the area of a session that was removed. -/
  | leave (session : Nat)
  | findDevice (worker : String)
  | clearDevice (worker : String)
  | name (session : Nat) (report : RawReport)
  | level (session : Nat) (report : RawReport) (named : Option String)
  | count (session : Nat) (kinds : List MessageType) (named : Option String)
  /-- Unbinds the account of a worker that reported too much. -/
  | trip (session : Nat) (named : Option String)
  | disable (username : String) (held : Bool)
  | giveBack (username : String) (next : Stage)
  | cut (area : Int) (next : Stage)
  | storeDevice (session : Nat) (answer : Answer)
  | done (answer : Answer)

namespace Stage

def isDone : Stage → Bool
  | .done _ => true
  | _ => false

/-- How often a request has an account in hand, which it has to bind or to give back. -/
def holds (u : String) : Stage → Nat
  | .bind _ _ c => if c.username = u then 1 else 0
  | .disable v held => if held ∧ v = u then 1 else 0
  | .giveBack v next => (if v = u then 1 else 0) + next.holds u
  | .cut _ next => next.holds u
  | _ => 0

/-- Whether a request is about to unbind the account of a session that was removed. -/
def unbinds (n : Nat) : Stage → Bool
  | .unbind m => m = n
  | _ => false

/-- The sessions that a request keeps. -/
def sessions : Stage → List Nat
  | .findArea n | .select n _ | .bind n _ _ | .unbind n | .leave n | .name n _ | .level n _ _
  | .count n _ _ | .trip n _ | .storeDevice n _ => [n]
  | .giveBack _ next | .cut _ next => next.sessions
  | .start _ | .findDevice _ | .clearDevice _ | .disable _ _ | .done _ => []

theorem holds_of_isDone {s : Stage} (h : s.isDone) (u : String) : s.holds u = 0 := by
  cases s with
  | done answer => rfl
  | _ => cases h

theorem unbinds_of_isDone {s : Stage} (h : s.isDone) (n : Nat) : s.unbinds n = false := by
  cases s with
  | unbind m => cases h
  | _ => rfl

end Stage

/-- A fleet and the sessions that were removed from it, which requests may keep. -/
structure Shared (σ : Type) where
  fleet : Fleet σ
  gone : List Session

/-- Changes the session of a number. -/
def changed (n : Nat) (k : Session → Session) (x : Session) : Session :=
  if x.seq = n then k x else x

namespace Shared

variable {σ : Type}

/-- All sessions, those that were removed included. -/
def objects (t : Shared σ) : List Session := t.fleet.sessions.list ++ t.gone

def object (t : Shared σ) (n : Nat) : Session := (t.objects.find? (·.seq = n)).getD default

def modify (t : Shared σ) (n : Nat) (k : Session → Session) : Shared σ where
  fleet := { t.fleet with
    sessions := { t.fleet.sessions with list := t.fleet.sessions.list.map (changed n k) } }
  gone := t.gone.map (changed n k)

end Shared

section

variable {σ : Type} [Store σ]

/-- The number of the session of a worker. -/
def numberOf (f : Fleet σ) (worker : String) : Nat :=
  ((f.sessions.find? worker).map (·.seq)).getD 0

/-- One step of a request that came at the time `now`. -/
def Stage.next (now : Instant) (t : Shared σ) : Stage → Stage × Shared σ
  | .start (.account worker host) =>
    let f := t.fleet.touch worker host now
    (.findArea (numberOf f worker), { t with fleet := f })
  | .start (.logout worker) =>
    match t.fleet.sessions.find? worker with
    | none => (.findDevice worker, t)
    | some s =>
      (.unbind s.seq, ⟨{ t.fleet with sessions := t.fleet.sessions.remove worker }, t.gone ++ [s]⟩)
  | .start (.report report host) =>
    let f := t.fleet.touch report.worker host now
    (.name (numberOf f report.worker) report, { t with fleet := f })
  | .findArea n =>
    match (t.object n).area.bind t.fleet.areas.find? with
    | none => (.done (.credentials (.error (.noAreaAllocated (t.object n).id))), t)
    | some a => (.select n a.id, t)
  | .select n area =>
    match t.fleet.allocate t.fleet.accepts now with
    | (none, f) => (.done (.credentials (.error .noAccountAvailable)), { t with fleet := f })
    | (some c, f) => (.bind n area c, { t with fleet := f })
  | .bind n area c =>
    let next := .cut area (.storeDevice n (.credentials (.ok c)))
    (match (t.object n).displaced c.username with
      | some previous => .giveBack previous next
      | none => next,
      t.modify n (·.bindAccount c.username))
  | .unbind n =>
    (match (t.object n).username with
      | some username => .giveBack username (.leave n)
      | none => .leave n,
      t.modify n (·.unbindAccount))
  | .leave n =>
    (match (t.object n).area with
      | some area => .cut area (.clearDevice (t.object n).id)
      | none => .clearDevice (t.object n).id,
      t.modify n (·.unbindArea))
  | .findDevice worker =>
    match Store.findDevice worker t.fleet.store with
    | .error e => (.done (.noted (.error e)), t)
    | .ok none => (.done (.noted (.error (.deviceNotFound worker))), t)
    | .ok (some _) => (.clearDevice worker, t)
  | .clearDevice worker =>
    (.done (.noted (.ok ())), { t with fleet := t.fleet.persist (.deviceAccount worker none) })
  | .name n report =>
    (.level n report (report.username.filter (· != "") <|> (t.object n).username), t)
  | .level n report named =>
    (.count n report.methods named,
      match named with
      | some username =>
        if 0 < report.level then { t with fleet := t.fleet.setLevel username report.level } else t
      | none => t)
  | .count n kinds named =>
    let usage := (t.object n).usage.record kinds
    if t.fleet.sessions.limits.exceededBy usage then
      (.trip n named, t.modify n fun x => { x with usage := .zero })
    else (.done (.tripped none), t.modify n fun x => { x with usage })
  | .trip n named =>
    (match (t.object n).username, named with
      | some username, _ => .disable username true
      | none, some username => .disable username false
      | none, none => .done (.tripped none),
      t.modify n (·.unbindAccount))
  | .disable username held =>
    (if held then .giveBack username (.done (.tripped (some username)))
      else .done (.tripped (some username)),
      { t with fleet := t.fleet.markDisabled username now })
  | .giveBack username next => (next, { t with fleet := t.fleet.release username now })
  | .cut area next => (next, { t with fleet := (t.fleet.recalculate area now).2 })
  | .storeDevice n answer =>
    let x := t.object n
    (.done answer,
      { t with fleet := t.fleet.persist (.device ⟨x.id, x.area, x.username, x.host, now⟩) })
  | .done answer => (.done answer, t)

end

/-- A request that is handled, with the time at which it came. -/
structure Task where
  now : Instant
  stage : Stage

/-- The state of a fleet that handles requests. -/
structure State (σ : Type) where
  shared : Shared σ
  tasks : List Task

/-- What happens next: a request comes, or one of those that came goes on by one step. -/
inductive Tick where
  | arrive (request : Request) (now : Instant)
  | go (i : Nat)

namespace State

variable {σ : Type}

/-- A fleet that handles no request. -/
def idle (f : Fleet σ) : State σ := ⟨⟨f, []⟩, []⟩

def isDone (t : State σ) : Bool := t.tasks.all (·.stage.isDone)

variable [Store σ]

def after (t : State σ) : Tick → State σ
  | .arrive request now => { t with tasks := t.tasks ++ [⟨now, .start request⟩] }
  | .go i =>
    match t.tasks[i]? with
    | none => t
    | some task =>
      let (stage, shared) := task.stage.next task.now t.shared
      ⟨shared, t.tasks.set i { task with stage }⟩

def run (t : State σ) (ticks : List Tick) : State σ := ticks.foldl after t

end State

end ScanFleet.Traffic
