/-! The exact values of doubles.  A finite double is a sign, a natural number and a power of two;
`Value.ofFloat` reads them off its bits, and `nearest` goes the other way: it gives the double
nearest to a quotient of natural numbers, a tie going to the even neighbour.  Both are exact
arithmetic on natural numbers. -/

namespace ScanFleet.Decimal

/-- A power of two. -/
def twoTo (n : Nat) : Nat := Nat.pow 2 n

/-- A power of ten. -/
def tenTo (n : Nat) : Nat := Nat.pow 10 n

/-- The value of a double: `finite negative m q` is `m * 2 ^ q` with the sign of `negative`. -/
inductive Value where
  | nan
  | infinite (negative : Bool)
  | finite (negative : Bool) (m : Nat) (q : Int)
deriving DecidableEq, Repr

/-- The value with the bits `sign`, and `magnitude` for the other 63. -/
def Value.ofParts (sign : Bool) (magnitude : Nat) : Value :=
  let exponent : Nat := magnitude / twoTo 52
  let fraction := magnitude % twoTo 52
  if exponent = 2047 then
    if fraction = 0 then .infinite sign else .nan
  else if exponent = 0 then .finite sign fraction (-1074)
  else .finite sign (fraction + twoTo 52) ((exponent : Int) - 1075)

/-- The value of a double. -/
def Value.ofFloat (x : Float) : Value :=
  let bits := x.toBits.toNat
  .ofParts (twoTo 63 ≤ bits) (bits % twoTo 63)

/-- The natural number nearest to `num / den`; a tie goes to the even one. -/
def roundHalfEven (num den : Nat) : Nat :=
  let whole := num / den
  let rest := num % den
  if 2 * rest < den then whole
  else if den < 2 * rest then whole + 1
  else whole + whole % 2

/-- The 63 bits below the sign of positive infinity. -/
def infinityBits : Nat := 2047 * twoTo 52

/-- The power of two that belongs to the last bit of the double nearest to `num / den`: the
quotient by it lies below `2 ^ 53`, and from `2 ^ 52` on unless it is the least power. -/
def unitExponent (num den : Nat) : Int :=
  let guess : Int := (num.log2 : Int) - den.log2 - 53
  let fits (q : Int) : Bool := num * twoTo (-q).toNat < twoTo 53 * (den * twoTo q.toNat)
  let q := if fits guess then guess else if fits (guess + 1) then guess + 1 else guess + 2
  max q (-1074)

/-- The 63 bits below the sign of the double nearest to `num / den`. -/
def nearestBits (num den : Nat) : Nat :=
  if num = 0 then 0
  else
    let q := unitExponent num den
    let m := roundHalfEven (num * twoTo (-q).toNat) (den * twoTo q.toNat)
    min ((q + 1074).toNat * twoTo 52 + m) infinityBits

/-- The double nearest to `num / den` with a sign. -/
def nearest (negative : Bool) (num den : Nat) : Float :=
  Float.ofBits (UInt64.ofNat ((if negative then twoTo 63 else 0) + nearestBits num den))

/-- Infinity with a sign. -/
def infinity (negative : Bool) : Float :=
  Float.ofBits (UInt64.ofNat ((if negative then twoTo 63 else 0) + infinityBits))

/-- The value that is not a number. -/
def notANumber : Float := Float.ofBits 0x7ff8000000000000

end ScanFleet.Decimal
