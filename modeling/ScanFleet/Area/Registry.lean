import ScanFleet.Area.Basic

/-! The areas of the fleet by their ids.  The list is ascending, so areas are always listed and
visited in the order of their ids. -/

namespace ScanFleet

/-- The areas in the order of their ids. -/
structure Areas where
  list : List Area
deriving Inhabited

/-- A list of areas with one put in its place; an area of the same id gives way. -/
def insertArea (a : Area) : List Area → List Area
  | [] => [a]
  | b :: rest =>
    if a.id < b.id then a :: b :: rest
    else if a.id = b.id then a :: rest
    else b :: insertArea a rest

/-- What a new set of definitions changed. -/
structure Reconciliation where
  added : List Int
  /-- The areas whose route, fence or number of workers changed. -/
  changed : List Int
  /-- The areas no longer defined, which want no workers any more. -/
  removed : List Area

/-- The areas that have to be cut anew. -/
def Reconciliation.affected (r : Reconciliation) : List Int := r.added ++ r.changed

namespace Areas

def empty : Areas := ⟨[]⟩

def find? (as : Areas) (id : Int) : Option Area := as.list.find? (·.id = id)

/-- Puts an area in place of the one with its id. -/
def insert (as : Areas) (a : Area) : Areas := ⟨insertArea a as.list⟩

/-- Replaces the area with the id of `a`, if there is one. -/
def replace (as : Areas) (a : Area) : Areas :=
  ⟨as.list.map fun b => if b.id = a.id then a else b⟩

def register (as : Areas) (d : Definition) : Areas := as.insert (.ofDefinition d)

def remove (as : Areas) (id : Int) : Areas := ⟨as.list.filter (·.id ≠ id)⟩

def ids (as : Areas) : List Int := as.list.map (·.id)

/-- Of the areas that want more live workers than they have, the one with the fewest, and of several
such the first.  An area is listed with the number of its live workers. -/
def neediest : List (Area × Nat) → Option (Area × Nat)
  | [] => none
  | (a, live) :: rest =>
    if a.target ≤ live then neediest rest
    else match neediest rest with
      | some (b, fewest) => if fewest < live then some (b, fewest) else some (a, live)
      | none => some (a, live)

/-- The area for a session: the one it is bound to, if that exists, and else the neediest one, to
which it is then bound.  The result says whether the binding is new. -/
def allocate (as : Areas) (id : String) (now : Instant) (unseen : Span) (s : Sessions) :
    Except FleetError (Area × Bool) × Sessions :=
  match ((s.find? id).bind (·.area)).bind as.find? with
  | some a => (.ok (a, false), s)
  | none =>
    match neediest (as.list.map fun a => (a, (s.liveIn a.id now unseen).length)) with
    | none => (.error .noAreaNeedsWorkers, s)
    | some (a, _) => (.ok (a, true), s.modify id (·.bindArea a.id))

/-- Adds the area of a definition, or applies the definition to the area that exists.  The ids of
new and of changed areas are collected. -/
def applyOne (acc : Areas × List Int × List Int) (d : Definition) : Areas × List Int × List Int :=
  let (as, added, changed) := acc
  match as.find? d.id with
  | none => (as.register d, added ++ [d.id], changed)
  | some a =>
    let (isChanged, a) := a.applyDefinition d
    (as.replace a, added, if isChanged then changed ++ [d.id] else changed)

/-- Reconciles the areas with a set of definitions.  Areas that are not defined are removed. -/
def apply (as : Areas) (ds : List Definition) : Reconciliation × Areas :=
  let (as, added, changed) := ds.foldl applyOne (as, [], [])
  let isDefined (a : Area) : Bool := ds.any (·.id = a.id)
  (⟨added.mergeSort, changed.mergeSort,
    (as.list.filter (! isDefined ·)).map ({ · with target := 0 })⟩,
    ⟨as.list.filter isDefined⟩)

end Areas

end ScanFleet
