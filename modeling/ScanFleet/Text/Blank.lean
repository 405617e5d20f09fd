/-! Blank characters and the texts between them.  A character is blank when Unicode gives it the
property `White_Space`.  `trim` drops blanks at both ends, `split` cuts at separators and keeps
empty fields, and `words` keeps the runs of characters that are not blank. -/

namespace ScanFleet.Text

/-- The characters with the property `White_Space`. -/
def isBlank (c : Char) : Bool :=
  let n := c.toNat
  (9 ≤ n && n ≤ 13) || n == 0x20 || n == 0x85 || n == 0xA0 || n == 0x1680 ||
    (0x2000 ≤ n && n ≤ 0x200A) || n == 0x2028 || n == 0x2029 || n == 0x202F || n == 0x205F ||
    n == 0x3000

/-- Drops the characters at both ends that satisfy `p`. -/
def trimBy (p : Char → Bool) (cs : List Char) : List Char :=
  ((cs.dropWhile p).reverse.dropWhile p).reverse

/-- Drops the blanks at both ends. -/
def trim (s : String) : String := String.ofList (trimBy isBlank s.toList)

/-- The fields between the characters that satisfy `p`, empty ones included: one more than there
are separators. -/
def split (p : Char → Bool) : List Char → List (List Char)
  | [] => [[]]
  | c :: cs =>
    if p c then [] :: split p cs
    else match split p cs with
      | [] => [[c]]
      | field :: fields => (c :: field) :: fields

/-- The runs of characters that are not blank. -/
def words (cs : List Char) : List (List Char) := (split isBlank cs).filter (! ·.isEmpty)

/-- The fields of a text between commas. -/
def commaFields (s : String) : List String := (split (· == ',') s.toList).map String.ofList

/-- The text before and the text after the first `c`, if there is one. -/
def splitAt (c : Char) : List Char → Option (List Char × List Char)
  | [] => none
  | x :: xs => if x == c then some ([], xs) else (splitAt c xs).map fun (a, b) => (x :: a, b)

/-- What follows the literal `head` in a text that starts with it. -/
def dropHead? : List Char → List Char → Option (List Char)
  | [], cs => some cs
  | h :: hs, c :: cs => if h == c then dropHead? hs cs else none
  | _ :: _, [] => none

/-- The lower-case form of the ASCII letters; other characters stay. -/
def asciiLower (s : String) : String := s.map Char.toLower

theorem isBlank_space : isBlank ' ' = true := by decide

end ScanFleet.Text
