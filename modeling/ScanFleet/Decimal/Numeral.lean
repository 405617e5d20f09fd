import ScanFleet.Decimal.Exact
import ScanFleet.Text.Blank
import ScanFleet.Text.Numeral

/-! Reading doubles.  A numeral is an optional sign and then `inf`, `infinity` or `nan` in any case,
or digits with an optional point and an optional exponent, where at least one digit stands before
the exponent.  The result is the double nearest to the written value. -/

namespace ScanFleet.Decimal

open ScanFleet.Text

/-- A written number: the digits without the point, and the power of ten of the last one. -/
structure Numeral where
  digits : Nat
  exponent : Int
deriving DecidableEq, Repr

/-- The double nearest to a written number.  A power of ten far out of range is not computed. -/
def Numeral.toFloat (n : Numeral) (negative : Bool) : Float :=
  let size : Int := (Nat.toDigits 10 n.digits).length
  if n.digits = 0 then nearest negative 0 1
  else if 400 < n.exponent + size then infinity negative
  else if n.exponent + size < -400 then nearest negative 0 1
  else nearest negative (n.digits * tenTo n.exponent.toNat) (tenTo (-n.exponent).toNat)

/-- The digits before and after the point, of which there is at least one. -/
def mantissa? (cs : List Char) : Option Numeral :=
  match splitAt '.' cs with
  | none => (natural? cs).map fun n => ⟨n, 0⟩
  | some (whole, fraction) =>
    (natural? (whole ++ fraction)).map fun n => ⟨n, -(fraction.length : Int)⟩

/-- A number without its sign. -/
def unsigned? (cs : List Char) : Option Numeral :=
  let head := cs.takeWhile fun c => c != 'e' && c != 'E'
  match cs.drop head.length with
  | [] => mantissa? head
  | _ :: exponent => do
    let n ← mantissa? head
    let e ← integer? exponent
    some { n with exponent := n.exponent + e }

/-- The double that a text without its sign stands for. -/
def magnitude? (negative : Bool) (cs : List Char) : Option Float :=
  let word := cs.map Char.toLower
  if word = "inf".toList ∨ word = "infinity".toList then some (infinity negative)
  else if word = "nan".toList then some notANumber
  else (unsigned? cs).map (·.toFloat negative)

/-- The double that a text stands for. -/
def read? : List Char → Option Float
  | '-' :: cs => magnitude? true cs
  | '+' :: cs => magnitude? false cs
  | cs => magnitude? false cs

end ScanFleet.Decimal
