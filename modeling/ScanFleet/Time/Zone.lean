import ScanFleet.Time.Calendar

/-! Time zones: a standard offset from UTC and, in some zones, an hour more in summer.  Summer time
begins and ends on Sundays of fixed months, at a fixed time in UTC.  Only the rule of recent years
is told, from the year on since which it stands. -/

namespace ScanFleet

/-- Which Sunday of a month. -/
inductive Sunday where
  /-- The one with this number, counted from one. -/
  | nth (n : Nat)
  | last
deriving DecidableEq, Repr

/-- A change of the clock: so many seconds after the start, in UTC, of a Sunday of a month. -/
structure Changeover where
  month : Nat
  sunday : Sunday
  second : Int
deriving DecidableEq, Repr

/-- How many days after a Sunday a day is; the first day of 1970 was a Thursday. -/
def dayOfWeek (day : Int) : Int := (day + 4) % 7

/-- The first Sunday on or after a day. -/
def sundayFrom (day : Int) : Int := day + (7 - dayOfWeek day) % 7

/-- The day on which a changeover of a year falls.  The last Sunday is the first one from seven days
before the end of the month on. -/
def Changeover.day (c : Changeover) (year : Int) : Int :=
  match c.sunday with
  | .nth n => sundayFrom (Date.toDays ⟨year, c.month, 1⟩) + 7 * (n - 1)
  | .last => sundayFrom (Date.toDays ⟨year, c.month + 1, 1⟩ - 7)

/-- The second, counted in UTC, of a changeover in a year. -/
def Changeover.at (c : Changeover) (year : Int) : Int := c.day year * secondsPerDay + c.second

/-- The rule of summer time, from its first year on. -/
structure SummerTime where
  since : Int
  starts : Changeover
  ends : Changeover
deriving DecidableEq, Repr

/-- Whether an instant lies in summer time.  In the south it lasts over the turn of the year. -/
def SummerTime.covers (s : SummerTime) (now : Instant) : Bool :=
  let year := (Date.ofDays (now.day 0)).year
  let started := s.starts.at year ≤ now.seconds
  let ended := s.ends.at year ≤ now.seconds
  s.since ≤ year &&
    if s.starts.month < s.ends.month then started && !ended else started || !ended

/-- A time zone. -/
structure Zone where
  name : String
  standard : Int
  summer : Option SummerTime
deriving DecidableEq, Repr

/-- How many seconds the clocks of a zone are ahead of UTC. -/
def Zone.offset (z : Zone) (now : Instant) : Int :=
  z.standard + if z.summer.any (·.covers now) then 3600 else 0

namespace Zone

def hours (n : Int) : Int := n * 3600

/-- Summer time in Europe begins and ends at one o'clock in UTC. -/
def europeanSummer : SummerTime where
  since := 1996
  starts := ⟨3, .last, hours 1⟩
  ends := ⟨10, .last, hours 1⟩

def vienna : Zone := ⟨"Europe/Vienna", hours 1, some europeanSummer⟩

/-- Both changes are at two o'clock on the clock that ends. -/
def newYork : Zone where
  name := "America/New_York"
  standard := hours (-5)
  summer := some ⟨2007, ⟨3, .nth 2, hours 7⟩, ⟨11, .nth 1, hours 6⟩⟩

def tokyo : Zone := ⟨"Asia/Tokyo", hours 9, none⟩

def kolkata : Zone := ⟨"Asia/Kolkata", hours 5 + 1800, none⟩

def kathmandu : Zone := ⟨"Asia/Kathmandu", hours 5 + 2700, none⟩

/-- Both changes are in the afternoon in UTC of the day before the Sunday. -/
def sydney : Zone where
  name := "Australia/Sydney"
  standard := hours 10
  summer := some ⟨2008, ⟨10, .nth 1, hours (-8)⟩, ⟨4, .nth 1, hours (-8)⟩⟩

def reykjavik : Zone := ⟨"Atlantic/Reykjavik", 0, none⟩

/-- The zone of the open sea whose clock is so many hours ahead.  By custom its name has the
opposite sign. -/
def atSea (h : Int) : Zone where
  name := "Etc/GMT" ++
    if h = 0 then "" else if 0 < h then "-" ++ toString h else "+" ++ toString (-h)
  standard := hours h
  summer := none

end Zone

end ScanFleet
