import ScanFleet.Text.Blank
import ScanFleet.Text.Numeral

/-! Addresses of the internet protocol in their two versions: reading and writing. -/

namespace ScanFleet.Url

open Text

/-- An address of version 4 as a number of 32 bits, or one of version 6 as eight of 16 bits. -/
inductive Address where
  | v4 (value : Nat)
  | v6 (pieces : List Nat)
deriving DecidableEq, Repr

/-- The four decimal numbers of an address. -/
def dotted (value : Nat) : String :=
  ".".intercalate ([16777216, 65536, 256, 1].map fun unit => toString (value / unit % 256))

/-- One of the four numbers, without leading zeros. -/
def octet? (cs : List Char) : Option Nat :=
  match cs with
  | '0' :: _ :: _ => none
  | cs => (natural? cs).filter (· < 256)

/-- The value of four decimal numbers between points. -/
def readDotted? (cs : List Char) : Option Nat :=
  match (split (· == '.') cs).mapM octet? with
  | some [a, b, c, d] => some (((a * 256 + b) * 256 + c) * 256 + d)
  | _ => none

/-- The value of up to four hexadecimal digits. -/
def piece? (cs : List Char) : Option Nat := if cs.length ≤ 4 then naturalIn? 16 cs else none

/-- The pieces between colons; the last one may be an address of version 4. -/
def pieces? (mayEndDotted : Bool) : List (List Char) → Option (List Nat)
  | [] => some []
  | [cs] =>
    match piece? cs with
    | some n => some [n]
    | none =>
      if mayEndDotted then (readDotted? cs).map fun n => [n / 65536, n % 65536] else none
  | cs :: rest => do
    let n ← piece? cs
    let ns ← pieces? mayEndDotted rest
    some (n :: ns)

/-- The pieces of one side of an address. -/
def side? (mayEndDotted : Bool) (cs : List Char) : Option (List Nat) :=
  if cs.isEmpty then some [] else pieces? mayEndDotted (split (· == ':') cs)

/-- What stands before and after the first two colons in a row. -/
def splitGap : List Char → Option (List Char × List Char)
  | ':' :: ':' :: rest => some ([], rest)
  | c :: rest => (splitGap rest).map fun (a, b) => (c :: a, b)
  | [] => none

/-- The eight pieces of an address; a gap stands for one zero at least. -/
def readPieces? (cs : List Char) : Option (List Nat) :=
  match splitGap cs with
  | none => (side? true cs).filter (·.length = 8)
  | some (before, after) => do
    let left ← side? false before
    let right ← side? true after
    if left.length + right.length ≤ 7 then
      some (left ++ List.replicate (8 - left.length - right.length) 0 ++ right)
    else none

/-- The address in a text. -/
def Address.read? (cs : List Char) : Option Address :=
  match readDotted? cs with
  | some n => some (.v4 n)
  | none => (readPieces? cs).map .v6

/-- The number of zeros at the front. -/
def zerosAt (pieces : List Nat) : Nat := (pieces.takeWhile (· = 0)).length

/-- The place and length of the longest run of two or more zeros; of several such, the first. -/
def longestGap (pieces : List Nat) : Option (Nat × Nat) :=
  (List.range 8).foldl (fun best i =>
    let length := zerosAt (pieces.drop i)
    if length < 2 then best
    else match best with
      | some (_, longest) => if longest < length then some (i, length) else best
      | none => some (i, length)) none

def piecesText (pieces : List Nat) : String := ":".intercalate (pieces.map (digitsOf 16))

/-- The eight pieces in hexadecimal, with the longest run of zeros left out. -/
def compressed (pieces : List Nat) : String :=
  match longestGap pieces with
  | none => piecesText pieces
  | some (i, length) =>
    piecesText (pieces.take i) ++ "::" ++ piecesText (pieces.drop (i + length))

/-- The text of an address.  One of version 6 that stands for one of version 4 shows it. -/
def Address.text : Address → String
  | .v4 n => dotted n
  | .v6 [0, 0, 0, 0, 0, 0xFFFF, a, b] => "::ffff:" ++ dotted (a * 65536 + b)
  | .v6 pieces => compressed pieces

/-- An address of version 6 without the number of its zone, which may follow a percent sign. -/
def withoutZone? (cs : List Char) : Option (List Char) :=
  match splitAt '%' cs with
  | none => some cs
  | some (address, zone) =>
    if !zone.isEmpty && zone.all Char.isDigit then some address else none

/-- The address in a text that ends in a port; one of version 6 stands in brackets. -/
def hostOfSocket? (s : String) : Option Address :=
  match s.toList with
  | '[' :: cs =>
    match splitAt ']' cs with
    | some (inner, ':' :: _) => ((withoutZone? inner).bind readPieces?).map .v6
    | _ => none
  | cs =>
    match splitAt ':' cs with
    | some (host, _) => (readDotted? host).map .v4
    | none => none

end ScanFleet.Url
