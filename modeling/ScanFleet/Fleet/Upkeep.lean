import ScanFleet.Fleet.Quests

/-! The upkeep of a fleet: the sweep that takes parts of routes from stale workers, and the two
timers by which sweeps and rebuilds of quest routes are done. -/

namespace ScanFleet

namespace Fleet

variable {σ : Type}

/-- Whether a worker that is not live holds a part of the route of an area. -/
def hasStaleWalk (f : Fleet σ) (area : Int) (now : Instant) : Bool :=
  (f.sessions.inArea area).any fun s => s.walk.isSome && !s.isLive now f.settings.unseen

/-- Drops what has expired in the caches of an area. -/
def purgeCaches (f : Fleet σ) (area : Int) (now : Instant) : Fleet σ :=
  match f.areas.find? area with
  | none => f
  | some a => { f with areas := f.areas.replace (a.purgeCaches now).2 }

/-- Sweeps one area and counts it if a stale worker was found. -/
def sweepArea (now : Instant) (acc : Nat × Fleet σ) (area : Int) : Nat × Fleet σ :=
  let f := acc.2.purgeCaches area now
  if f.hasStaleWalk area now then (acc.1 + 1, (f.recalculate area now).2) else (acc.1, f)

/-- Sweeps all areas; the result is the number of those where a stale worker held a part. -/
def sweep (f : Fleet σ) (now : Instant) : Nat × Fleet σ :=
  f.areas.ids.foldl (sweepArea now) (0, f)

end Fleet

/-- A timer that goes off once in every period; one without a period never does. -/
structure Timer where
  period : Span
  due : Span
deriving DecidableEq, Repr

/-- A timer that starts at `time`. -/
def Timer.start (period time : Span) : Timer := ⟨period, time + period⟩

/-- How late a timer may be and still keep to its times. -/
def Timer.leeway : Span := 5

/-- How often a timer goes off at `time`, and the timer afterwards.  One that is late by no more
than the leeway makes up for what it has missed; one that is later goes off once and starts
again. -/
def Timer.tick (t : Timer) (time : Span) : Nat × Timer :=
  if t.period = 0 ∨ time < t.due then (0, t)
  else if t.due + leeway < time then (1, .start t.period time)
  else
    let times := ((time - t.due) / t.period).toNat + 1
    (times, { t with due := t.due + times * t.period })

/-- The timers of sweeps and of rebuilds, and the time that has passed. -/
structure Scheduler where
  time : Span
  sweep : Timer
  rebuild : Timer
deriving DecidableEq, Repr

def Scheduler.start (settings : Settings) : Scheduler :=
  ⟨0, .start settings.sweepInterval 0, .start settings.rebuildInterval 0⟩

/-- Lets time pass and does what is due then. -/
def Scheduler.advance {σ : Type} [Store σ] (s : Scheduler) (elapsed : Span) (services : Services)
    (now : Instant) (f : Fleet σ) : Scheduler × Fleet σ :=
  let time := s.time + elapsed
  let (sweeps, sweep) := s.sweep.tick time
  let (rebuilds, rebuild) := s.rebuild.tick time
  let f := Nat.repeat (fun f => (f.sweep now).2) sweeps f
  (⟨time, sweep, rebuild⟩, Nat.repeat (fun f => (f.rebuildDue services now).2) rebuilds f)

end ScanFleet
