import ScanFleet.Decimal.Exact
import ScanFleet.Text.Numeral

/-! Doubles with a fixed number of decimal places.  The exact value is rounded to the nearest
multiple of the last place, a tie going to the even one.  Zero keeps its sign. -/

namespace ScanFleet.Decimal

open ScanFleet.Text

/-- The magnitude `m * 2 ^ q` as a count of units of the last of `places` decimal places. -/
def unitsOf (places m : Nat) (q : Int) : Nat :=
  roundHalfEven (m * tenTo places * twoTo q.toNat) (twoTo (-q).toNat)

/-- A count of units of the last place, with the point in front of that many digits. -/
def withPoint (places units : Nat) : String :=
  toString (units / tenTo places) ++ "." ++ padded places (units % tenTo places)

/-- The text of a double with `places` decimal places. -/
def fixed (places : Nat) (x : Float) : String :=
  match Value.ofFloat x with
  | .nan => "NaN"
  | .infinite negative => if negative then "-inf" else "inf"
  | .finite negative m q =>
    (if negative then "-" else "") ++ withPoint places (unitsOf places m q)

end ScanFleet.Decimal
