import ScanFleet.Area.Part
import ScanFleet.Session.Usage
import ScanFleet.Time.Instant

/-! Sessions of workers.  A session has the area and the account that the worker is bound to, and,
while the worker holds a part of the area's route, a walk along that part. -/

namespace ScanFleet

/-- A part of a route and the step of it that comes next. -/
structure Walk where
  part : Part
  step : Nat
deriving DecidableEq, Repr

/-- The walk along a new part.  It goes on from the step of the old walk if that lies in the part,
and starts at the beginning if not. -/
def Walk.assign (old : Option Walk) (part : Part) : Walk :=
  match old with
  | some w => ⟨part, if part.contains w.step then w.step else part.start⟩
  | none => ⟨part, part.start⟩

/-- The walk after its next step, which after the last step is the first one again. -/
def Walk.advance (w : Walk) : Walk :=
  { w with step := if w.part.last ≤ w.step then w.part.start else w.step + 1 }

/-- What is known of a worker that is connected. -/
structure Session where
  id : String
  /-- The number of sessions created before this one. -/
  seq : Nat
  area : Option Int
  username : Option String
  walk : Option Walk
  host : Option String
  lastSeen : Instant
  usage : Usage
deriving DecidableEq, Repr, Inhabited

namespace Session

def new (id : String) (seq : Nat) (now : Instant) : Session where
  id := id
  seq := seq
  area := none
  username := none
  walk := none
  host := none
  lastSeen := now
  usage := .zero

/-- Notes that the worker was seen, and its host if that is known. -/
def touch (s : Session) (host : Option String) (now : Instant) : Session :=
  { s with lastSeen := now, host := host <|> s.host }

/-- Whether the worker was seen within the last `unseen` milliseconds. -/
def isLive (s : Session) (now : Instant) (unseen : Span) : Bool := now - s.lastSeen ≤ unseen

/-- Gives the worker a part of the route of its area. -/
def assign (s : Session) (part : Part) : Session := { s with walk := some (.assign s.walk part) }

/-- Takes the worker's part of the route away. -/
def clearWalk (s : Session) : Session := { s with walk := none }

/-- The step that comes next; it is the first one of the route when there is no walk. -/
def step (s : Session) : Nat := (s.walk.map Walk.step).getD 0

/-- Moves on by one step. -/
def advance (s : Session) : Session := { s with walk := s.walk.map Walk.advance }

def bindArea (s : Session) (area : Int) : Session := { s with area := some area }

/-- Unbinds the area and takes the part of its route away. -/
def unbindArea (s : Session) : Session := { s with area := none, walk := none }

def bindAccount (s : Session) (username : String) : Session := { s with username := some username }

def unbindAccount (s : Session) : Session := { s with username := none }

/-- The account that is given up when the session is bound to `username`. -/
def displaced (s : Session) (username : String) : Option String := s.username.filter (· != username)

end Session

end ScanFleet
