import ScanFleet.Quest.Hours
import ScanFleet.Time.Instant

/-! The daily start of quest scanning.  It fires at the earliest of the set hours, and a slot, which
is an hour of one local day, is looked at once only. -/

namespace ScanFleet

/-- An hour of a local day; the day is known by the second in UTC at which it began. -/
structure LocalHour where
  hour : Nat
  midnight : Int
deriving DecidableEq, Repr

/-- The slot of an instant on a clock `offset` seconds ahead of UTC. -/
def LocalHour.at (now : Instant) (offset : Int) : LocalHour :=
  ⟨now.hour offset, now.midnight offset⟩

/-- The set hours and the slot that was looked at last. -/
structure Schedule where
  hours : Hours
  last : Option LocalHour
deriving DecidableEq, Repr, Inhabited

def Schedule.new (hours : Hours) : Schedule := ⟨hours, none⟩

def Schedule.setHours (s : Schedule) (hours : Hours) : Schedule := { s with hours }

/-- Looks at the slot of an instant; the result says whether quest scanning starts. -/
def Schedule.check (s : Schedule) (now : Instant) (offset : Int) : Bool × Schedule :=
  let slot := LocalHour.at now offset
  if s.last = some slot then (false, s)
  else (s.hours.contains slot.hour && s.hours.earliest? == some slot.hour,
    { s with last := some slot })

end ScanFleet
