import ScanFleet.Decimal.Exact

/-! The shortest decimal that reads back as a given double.  The decimals with one digit are tried
first, then those with two, and so on; of the decimals of one length that read back, the one
nearest to the exact value is taken. -/

namespace ScanFleet.Decimal

/-- A decimal `digits * 10 ^ exponent`. -/
structure Short where
  digits : Nat
  exponent : Int
deriving DecidableEq, Repr

/-- The bits of the double nearest to a decimal. -/
def Short.bits (d : Short) : Nat :=
  nearestBits (d.digits * tenTo d.exponent.toNat) (tenTo (-d.exponent).toNat)

/-- The multiple of `10 ^ exponent` nearest to `num / den`. -/
def onGrid (num den : Nat) (exponent : Int) : Short :=
  ⟨roundHalfEven (num * tenTo (-exponent).toNat) (den * tenTo exponent.toNat), exponent⟩

/-- Tries the grids from the coarsest, `count` of them, and ends with the finest. -/
def search (bits num den : Nat) (exponent : Int) : Nat → Short
  | 0 => onGrid num den exponent
  | count + 1 =>
    let candidate := onGrid num den exponent
    if candidate.bits = bits ∧ candidate.digits ≠ 0 then candidate
    else search bits num den (exponent - 1) count

/-- The power of ten of the first digit of `num / den`, or one more. -/
def leadingPower (num den : Nat) : Int :=
  (Nat.toDigits 10 num).length - (Nat.toDigits 10 den).length

/-- The shortest decimal that reads back as the positive double `m * 2 ^ q` with these bits. -/
def shortest (bits m : Nat) (q : Int) : Short :=
  let num := m * twoTo q.toNat
  let den := twoTo (-q).toNat
  search bits num den (leadingPower num den) 20

/-- Moves the zeros at the end of the digits into the exponent. -/
def Short.strip (d : Short) : Nat → Short
  | 0 => d
  | fuel + 1 =>
    if d.digits ≠ 0 ∧ d.digits % 10 = 0 then Short.strip ⟨d.digits / 10, d.exponent + 1⟩ fuel else d

/-- How a positive double is written: in positional notation while its exponent lies in a range. -/
structure Layout where
  /-- The least and the greatest power of ten of the first digit that is written positionally. -/
  lowest : Int
  highest : Int
  /-- What stands between digits and exponent. -/
  mark : String
deriving DecidableEq, Repr

/-- The text of a decimal in positional notation, with at least one digit after the point. -/
def Short.positional (d : Short) : String :=
  let digits := Nat.toDigits 10 d.digits
  let whole : Int := digits.length + d.exponent
  if 0 ≤ d.exponent then
    String.ofList (digits ++ List.replicate d.exponent.toNat '0') ++ ".0"
  else if 0 < whole then
    String.ofList (digits.take whole.toNat) ++ "." ++ String.ofList (digits.drop whole.toNat)
  else "0." ++ String.ofList (List.replicate (-whole).toNat '0' ++ digits)

/-- The text of a decimal with one digit before the point and an exponent. -/
def Short.scientific (d : Short) (mark : String) : String :=
  let digits := Nat.toDigits 10 d.digits
  let power : Int := digits.length + d.exponent - 1
  let fraction := if digits.length = 1 then "" else "." ++ String.ofList (digits.drop 1)
  String.ofList (digits.take 1) ++ fraction ++ mark ++ toString power

/-- The text of a double by the shortest decimal that reads back. -/
def shortText (style : Layout) (x : Float) : String :=
  match Value.ofFloat x with
  | .nan => "NaN"
  | .infinite negative => if negative then "-inf" else "inf"
  | .finite negative m q =>
    let sign := if negative then "-" else ""
    if m = 0 then sign ++ "0.0"
    else
      let d := (shortest (x.toBits.toNat % twoTo 63) m q).strip 400
      let power : Int := (Nat.toDigits 10 d.digits).length + d.exponent - 1
      sign ++ if style.lowest ≤ power ∧ power ≤ style.highest then d.positional
        else d.scientific style.mark

end ScanFleet.Decimal
