import ScanFleet.Session.Basic

/-! The sessions of all workers that are connected, in the order of their creation.  A worker has
one session; after it is removed, a new one has a new number. -/

namespace ScanFleet

/-- The sessions, the number of the next one, and the ceilings on what workers report. -/
structure Sessions where
  list : List Session
  next : Nat
  limits : UsageLimits
deriving DecidableEq, Repr, Inhabited

namespace Sessions

def empty (limits : UsageLimits) : Sessions := ⟨[], 0, limits⟩

def find? (s : Sessions) (id : String) : Option Session := s.list.find? (·.id = id)

/-- Changes the session of a worker. -/
def modify (s : Sessions) (id : String) (f : Session → Session) : Sessions :=
  { s with list := s.list.map fun x => if x.id = id then f x else x }

/-- Creates the session of a worker unless there is one. -/
def ensure (s : Sessions) (id : String) (now : Instant) : Sessions :=
  match s.find? id with
  | some _ => s
  | none => { s with list := s.list ++ [.new id s.next now], next := s.next + 1 }

/-- Notes that a worker was seen, which creates its session if there is none. -/
def touch (s : Sessions) (id : String) (host : Option String) (now : Instant) : Sessions :=
  (s.ensure id now).modify id (·.touch host now)

def remove (s : Sessions) (id : String) : Sessions :=
  { s with list := s.list.filter (·.id ≠ id) }

/-- The sessions bound to an area. -/
def inArea (s : Sessions) (area : Int) : List Session := s.list.filter (·.area = some area)

/-- The sessions bound to an area whose workers were seen lately. -/
def liveIn (s : Sessions) (area : Int) (now : Instant) (unseen : Span) : List Session :=
  (s.inArea area).filter (·.isLive now unseen)

/-- Whether the session of a worker is live. -/
def isLive (s : Sessions) (id : String) (now : Instant) (unseen : Span) : Bool :=
  (s.find? id).any (·.isLive now unseen)

/-- Changes the sessions of several workers in the same way. -/
def modifyAll (s : Sessions) (ids : List String) (f : Session → Session) : Sessions :=
  ids.foldl (fun s id => s.modify id f) s

/-- Gives each worker the part that stands beside it. -/
def assignAll (s : Sessions) (parts : List (String × Part)) : Sessions :=
  parts.foldl (fun s (id, part) => s.modify id (·.assign part)) s

/-- The route walks of workers, cut anew.  Those of `ids` that are not live lose their part, and the
live ones have the parts of a route of that many steps, in order.  Nothing changes when none is
live.  The result is the number of live ones. -/
def partitionRoute (s : Sessions) (ids : List String) (steps : Nat) (now : Instant)
    (unseen : Span) : Nat × Sessions :=
  let live := ids.filter (s.isLive · now unseen)
  let stale := ids.filter (! s.isLive · now unseen)
  if live.isEmpty then (0, s)
  else
    let s := s.modifyAll stale .clearWalk
    (live.length,
      if steps = 0 then s.modifyAll live .clearWalk
      else s.assignAll (live.zip (partition steps live.length)))

end Sessions

end ScanFleet
