/-! Parts of a route.  `partition` cuts a route into one part for each of its workers; the parts are
consecutive and as equal in length as they can be, the longer ones first.  When there are more
workers than steps, each worker has a single step and some steps have several workers. -/

namespace ScanFleet

/-- The steps from `start` to `last`, both included. -/
structure Part where
  start : Nat
  last : Nat
deriving DecidableEq, Repr

def Part.contains (p : Part) (step : Nat) : Bool := p.start ≤ step && step ≤ p.last

def Part.size (p : Part) : Nat := p.last + 1 - p.start

/-- The first step of part `i` of a route that is cut for `workers`: the parts before it have
`steps / workers` steps each, and the first `steps % workers` of them one more. -/
def partStart (steps workers i : Nat) : Nat := i * (steps / workers) + min i (steps % workers)

/-- The part of worker number `i`. -/
def part (steps workers i : Nat) : Part :=
  if workers ≤ steps then ⟨partStart steps workers i, partStart steps workers (i + 1) - 1⟩
  else ⟨i % steps, i % steps⟩

/-- The parts of the workers in order; none when the route has no steps. -/
def partition (steps workers : Nat) : List Part :=
  if steps = 0 then [] else (List.range workers).map (part steps workers)

theorem partition_zero_steps (workers : Nat) : partition 0 workers = [] := rfl

end ScanFleet
