/-! Decimal numerals.  `natural?` reads digits, `integer?` digits with a sign in front, and
`bounded?` keeps an integer that lies in a range.  Nothing but the digits and the sign may occur,
and leading zeros are allowed. -/

namespace ScanFleet.Text

/-- The value of an ASCII digit. -/
def digit? (c : Char) : Option Nat :=
  if '0' ≤ c ∧ c ≤ '9' then some (c.toNat - 48) else none

/-- The value of a digit of a base up to 36, in either case. -/
def digitIn? (base : Nat) (c : Char) : Option Nat :=
  let value :=
    if '0' ≤ c ∧ c ≤ '9' then c.toNat - 48
    else if 'a' ≤ c ∧ c ≤ 'z' then c.toNat - 87
    else if 'A' ≤ c ∧ c ≤ 'Z' then c.toNat - 55
    else base
  if value < base then some value else none

/-- Whether a character is an ASCII digit. -/
def isDigit (c : Char) : Bool := (digit? c).isSome

/-- Appends digits to the value of the digits before them; a digit past `base` stops it. -/
def digitsFrom (base : Nat) : Nat → List Char → Option Nat
  | n, [] => some n
  | n, c :: cs => (digitIn? base c).bind fun d => digitsFrom base (n * base + d) cs

/-- The value of one or more digits of a base. -/
def naturalIn? (base : Nat) : List Char → Option Nat
  | [] => none
  | cs => digitsFrom base 0 cs

/-- The value of one or more decimal digits. -/
def natural? (cs : List Char) : Option Nat := naturalIn? 10 cs

/-- Digits with an optional sign. -/
def integer? : List Char → Option Int
  | '+' :: cs => (natural? cs).map Int.ofNat
  | '-' :: cs => (natural? cs).map fun n => -(n : Int)
  | cs => (natural? cs).map Int.ofNat

/-- An integer numeral with a value from `lo` to `hi`.  Where no negative value is allowed a minus
sign is refused, also before zero. -/
def bounded? (lo hi : Int) (s : String) : Option Int :=
  let cs := s.toList
  if 0 ≤ lo && cs.head? == some '-' then none
  else (integer? cs).filter fun n => lo ≤ n && n ≤ hi

/-- The largest value of each width of integer that a setting or column can have. -/
def maxU16 : Nat := 65535

def maxU32 : Nat := 4294967295

def maxU64 : Nat := 18446744073709551615

def minI32 : Int := -2147483648

def maxI32 : Int := 2147483647

/-- The digits of a natural number in a base up to 36, most significant first. -/
def digitsOf (base n : Nat) : String := String.ofList (Nat.toDigits base n)

/-- A number written with at least `width` digits. -/
def padded (width n : Nat) : String :=
  let digits := Nat.toDigits 10 n
  String.ofList (List.replicate (width - digits.length) '0' ++ digits)

end ScanFleet.Text
