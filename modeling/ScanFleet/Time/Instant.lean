/-! Points in time and spans, both in whole milliseconds, and the clock of a place whose offset
from UTC is known. -/

namespace ScanFleet

/-- Milliseconds since the start of 1970 in UTC. -/
abbrev Instant := Int

/-- A length of time in milliseconds. -/
abbrev Span := Int

/-- Whole seconds since the start of 1970 in UTC. -/
def Instant.seconds (t : Instant) : Int := t / 1000

def Span.ofSeconds (n : Int) : Span := n * 1000

def Span.ofMinutes (n : Int) : Span := .ofSeconds (n * 60)

def Span.ofHours (n : Int) : Span := .ofMinutes (n * 60)

def Span.ofDays (n : Int) : Span := .ofHours (n * 24)

/-- The seconds of a day. -/
def secondsPerDay : Int := 86400

/-- The seconds since midnight on a clock that runs `offset` seconds ahead of UTC. -/
def Instant.secondOfDay (t : Instant) (offset : Int) : Int :=
  (t.seconds + offset) % secondsPerDay

/-- The hour that such a clock shows. -/
def Instant.hour (t : Instant) (offset : Int) : Nat :=
  (t.secondOfDay offset / 3600).toNat

/-- The second, counted in UTC, at which the day of such a clock began. -/
def Instant.midnight (t : Instant) (offset : Int) : Int :=
  t.seconds - t.secondOfDay offset

/-- The number of the day on such a clock, counted from the start of 1970. -/
def Instant.day (t : Instant) (offset : Int) : Int :=
  (t.seconds + offset) / secondsPerDay

end ScanFleet
