import ScanFleet.Text.Blank
import ScanFleet.Text.Numeral

/-! Sets of code points, such as those with a property.  A table of a set is written in hexadecimal:
code points, and ranges of them with a dash between the first and the last one. -/

namespace ScanFleet.Text

/-- A set of code points as closed ranges, ascending and apart. -/
abbrev CodePoints := List (Nat × Nat)

namespace CodePoints

/-- The range that one word of a table stands for. -/
def range? (cs : List Char) : Option (Nat × Nat) :=
  match splitAt '-' cs with
  | some (first, last) => do return (← naturalIn? 16 first, ← naturalIn? 16 last)
  | none => (naturalIn? 16 cs).map fun n => (n, n)

/-- The set in the lines of a table. -/
def ofTable (lines : List String) : CodePoints :=
  lines.flatMap fun line => (words line.toList).filterMap range?

/-- Whether a code point is in a set. -/
def contains : CodePoints → Nat → Bool
  | [], _ => false
  | (first, last) :: rest, n => first ≤ n && (n ≤ last || contains rest n)

end CodePoints

end ScanFleet.Text
