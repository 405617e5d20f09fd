import ScanFleet.Text.Blank
import ScanFleet.Text.Numeral
import ScanFleet.Time.Instant

/-! Durations and the texts they are set by, such as `1h 30m`.  A text is a row of groups of a
number and a unit, with blanks before, between and in the numbers as one likes.  A number may have a
fraction if that makes a whole number of nanoseconds, or of seconds from the hour on.  Every number
that comes up has to fit in 64 bits. -/

namespace ScanFleet

open Text

/-- A length of time. -/
structure Duration where
  seconds : Nat
  nanos : Nat
deriving DecidableEq, Repr, Inhabited

namespace Duration

def ofSeconds (n : Nat) : Duration := ⟨n, 0⟩

def isZero (d : Duration) : Bool := d.seconds == 0 && d.nanos == 0

/-- The number of whole milliseconds. -/
def millis (d : Duration) : Nat := d.seconds * 1000 + d.nanos / 1000000

/-- A number of seconds or of nanoseconds. -/
inductive Amount where
  | seconds (n : Nat)
  | nanos (n : Nat)
deriving DecidableEq, Repr

/-- A unit: its length, and the length in which its fractions are counted, if it has any. -/
structure TimeUnit where
  names : List String
  whole : Amount
  fraction : Option Amount

/-- The units, each with the names it goes by. -/
def units : List TimeUnit :=
  let long (names : List String) (n : Nat) : TimeUnit := ⟨names, .seconds n, some (.seconds n)⟩
  [⟨["ns", "nsec", "nanos"], .nanos 1, none⟩,
    ⟨["us", "usec", "µs"], .nanos 1000, some (.nanos 1000)⟩,
    ⟨["ms", "msec", "millis"], .nanos 1000000, some (.nanos 1000000)⟩,
    ⟨["s", "sec", "secs", "second", "seconds"], .seconds 1, some (.nanos 1000000000)⟩,
    ⟨["m", "min", "mins", "minute", "minutes"], .seconds 60, some (.nanos 60000000000)⟩,
    long ["h", "hr", "hrs", "hour", "hours"] 3600,
    long ["d", "day", "days"] 86400,
    long ["w", "wk", "wks", "week", "weeks"] 604800,
    long ["M", "month", "months"] 2630016,
    long ["y", "yr", "yrs", "year", "years"] 31557600]

def unit? (name : String) : Option TimeUnit := units.find? (·.names.contains name)

/-- A number that fits in 64 bits. -/
def fitted (n : Nat) : Option Nat := if n ≤ maxU64 then some n else none

/-- The sum of a duration and an amount. -/
def add (d : Duration) : Amount → Option Duration
  | .seconds n => (fitted (d.seconds + n)).map fun s => { d with seconds := s }
  | .nanos n => do
    let nanos ← fitted (d.nanos + n)
    let seconds ← fitted (d.seconds + nanos / 1000000000)
    return ⟨seconds, nanos % 1000000000⟩

/-- A multiple of an amount. -/
def Amount.times (n : Nat) : Amount → Option Amount
  | .seconds k => (fitted (n * k)).map .seconds
  | .nanos k => (fitted (n * k)).map .nanos

/-- The quotient of an amount if it is exact. -/
def Amount.divided (n : Nat) : Amount → Option Amount
  | .seconds k => if k % n = 0 then some (.seconds (k / n)) else none
  | .nanos k => if k % n = 0 then some (.nanos (k / n)) else none

/-- A fraction as it is written: its digits and the power of ten below them. -/
structure Fraction where
  numerator : Nat
  denominator : Nat

/-- Whether a character may stand in the name of a unit. -/
def isUnitChar (c : Char) : Bool :=
  ('a' ≤ c && c ≤ 'z') || ('A' ≤ c && c ≤ 'Z') || c == 'µ'

/-- The digits of a number up to the first character that is neither digit nor blank. -/
def digits (n : Nat) : List Char → Option (Nat × List Char)
  | [] => some (n, [])
  | c :: cs =>
    match digit? c with
    | some d => (fitted (n * 10 + d)).bind (digits · cs)
    | none => if isBlank c then digits n cs else some (n, c :: cs)

/-- The digits of a fraction. -/
def fractionDigits (f : Fraction) : List Char → Option (Fraction × List Char)
  | [] => some (f, [])
  | c :: cs =>
    match digit? c with
    | some d => do
      let numerator ← fitted (f.numerator * 10 + d)
      let denominator ← fitted (f.denominator * 10)
      fractionDigits ⟨numerator, denominator⟩ cs
    | none => if isBlank c then fractionDigits f cs else some (f, c :: cs)

/-- The fraction after a number, if a point begins one. -/
def fraction? : List Char → Option (Option Fraction × List Char)
  | '.' :: cs =>
    (fractionDigits ⟨0, 1⟩ cs).bind fun (f, rest) =>
      if f.denominator = 1 then none else some (some f, rest)
  | cs => some (none, cs)

/-- The name of a unit, which ends before a digit or a blank. -/
def unitName (cs : List Char) : Option (String × List Char) :=
  let name := cs.takeWhile isUnitChar
  let rest := cs.drop name.length
  match rest with
  | [] => some (String.ofList name, [])
  | c :: _ => if isDigit c || isBlank c then some (String.ofList name, rest) else none

/-- A duration with a number of units added, and a fraction of one. -/
def addGroup (d : Duration) (n : Nat) (fraction : Option Fraction) (unit : TimeUnit) :
    Option Duration := do
  let d ← d.add (← unit.whole.times n)
  match fraction with
  | none => return d
  | some f =>
    let part ← (← unit.fraction).times f.numerator
    d.add (← part.divided f.denominator)

/-- The groups of a text, added up. -/
def groups (fuel : Nat) (d : Duration) (cs : List Char) : Option Duration :=
  match fuel with
  | 0 => none
  | fuel + 1 =>
    match cs.dropWhile isBlank with
    | [] => some d
    | c :: cs => do
      let first ← digit? c
      let (n, rest) ← digits first cs
      let (fraction, rest) ← fraction? rest
      let (name, rest) ← unitName rest
      groups fuel (← addGroup d n fraction (← unit? name)) rest

/-- The duration that a text stands for; the single digit zero needs no unit. -/
def read? (s : String) : Option Duration :=
  let cs := s.toList
  if cs = ['0'] then some (ofSeconds 0)
  else if cs.all isBlank then none
  else groups (cs.length + 1) (ofSeconds 0) cs

end Duration

/-- The longest span, which is that of 63 bits of milliseconds. -/
def maxSpan : Duration := ⟨9223372036854775, 807000000⟩

/-- Whether a duration is no longer than another one. -/
def Duration.isWithin (d limit : Duration) : Bool :=
  d.seconds < limit.seconds || (d.seconds == limit.seconds && d.nanos ≤ limit.nanos)

/-- The span of a duration without the rest of a millisecond, unless the duration is too long. -/
def Span.ofDuration? (d : Duration) : Option Span :=
  if d.isWithin maxSpan then some d.millis else none

end ScanFleet
