import ScanFleet.Data.Value
import ScanFleet.Decimal.Numeral

/-! The scalar values of TOML: strings in their four forms, numbers, and dates with times.  Readers
take the text from the value on and yield it with the rest of the text. -/

namespace ScanFleet.Toml

open Text

/-- Whether a character may not stand for itself in a string or a comment. -/
def isControl (c : Char) : Bool := (c.toNat < 0x20 && c != '\t') || c.toNat == 0x7F

/-- The character with a code point in hexadecimal. -/
def codePoint? (digits : List Char) : Option Char :=
  (naturalIn? 16 digits).bind fun n => if n.isValidChar then some (Char.ofNat n) else none

/-- The character that an escape stands for, and what follows the escape. -/
def escape? : List Char → Option (Char × List Char)
  | 'b' :: cs => some ('\x08', cs)
  | 't' :: cs => some ('\t', cs)
  | 'n' :: cs => some ('\n', cs)
  | 'f' :: cs => some ('\x0c', cs)
  | 'r' :: cs => some ('\r', cs)
  | '"' :: cs => some ('"', cs)
  | '\\' :: cs => some ('\\', cs)
  | 'u' :: a :: b :: c :: d :: cs => (codePoint? [a, b, c, d]).map (·, cs)
  | 'U' :: a :: b :: c :: d :: e :: f :: g :: h :: cs =>
    (codePoint? [a, b, c, d, e, f, g, h]).map (·, cs)
  | _ => none

/-- The rest of a string on one line, up to its closing quotation mark. -/
def basic (fuel : Nat) (acc : List Char) (cs : List Char) : Option (String × List Char) :=
  match fuel, cs with
  | fuel + 1, c :: rest =>
    if c == '"' then some (String.ofList acc.reverse, rest)
    else if c == '\\' then (escape? rest).bind fun (e, rest) => basic fuel (e :: acc) rest
    else if isControl c then none
    else basic fuel (c :: acc) rest
  | _, _ => none

/-- The rest of a literal string on one line. -/
def literal (acc : List Char) : List Char → Option (String × List Char)
  | [] => none
  | c :: rest =>
    if c == '\'' then some (String.ofList acc.reverse, rest)
    else if isControl c then none
    else literal (c :: acc) rest

/-- What follows a line break at the front. -/
def afterBreak? : List Char → Option (List Char)
  | '\n' :: cs => some cs
  | '\r' :: '\n' :: cs => some cs
  | _ => none

/-- The quotation marks at the front: how many, and what follows. -/
def countMarks (mark : Char) (cs : List Char) : Nat × List Char :=
  ((cs.takeWhile (· == mark)).length, cs.dropWhile (· == mark))

/-- What follows blanks and line breaks. -/
def skipJoined : List Char → List Char
  | '\r' :: '\n' :: cs => skipJoined cs
  | c :: cs => if c == ' ' || c == '\t' || c == '\n' then skipJoined cs else c :: cs
  | [] => []

/-- Whether a backslash at the end of a line joins it to the next: then what follows the blanks. -/
def joinedLine? (cs : List Char) : Option (List Char) :=
  (afterBreak? (cs.dropWhile fun c => c == ' ' || c == '\t')).map skipJoined

/-- The rest of a string on several lines, up to three marks in a row; one or two more in front of
them belong to the string, and so do line breaks, as they are written.  Escapes are read where the
mark is a quotation mark. -/
def multiline (mark : Char) (fuel : Nat) (acc : List Char) (cs : List Char) :
    Option (String × List Char) :=
  match fuel, cs with
  | fuel + 1, c :: rest =>
    if c == mark then
      let (count, after) := countMarks mark (c :: rest)
      if count < 3 then multiline mark fuel (List.replicate count mark ++ acc) after
      else if count ≤ 5 then
        some (String.ofList (List.replicate (count - 3) mark ++ acc).reverse, after)
      else none
    else if c == '\\' && mark == '"' then
      match joinedLine? rest with
      | some rest => multiline mark fuel acc rest
      | none => (escape? rest).bind fun (e, rest) => multiline mark fuel (e :: acc) rest
    else if c == '\r' then
      (afterBreak? (c :: rest)).bind fun rest => multiline mark fuel ('\n' :: '\r' :: acc) rest
    else if isControl c && c != '\n' then none
    else multiline mark fuel (c :: acc) rest
  | _, _ => none

/-- A string in any of its forms. -/
def string? (fuel : Nat) (cs : List Char) : Option (String × List Char) :=
  let several (mark : Char) (rest : List Char) : Option (String × List Char) :=
    multiline mark fuel [] ((afterBreak? rest).getD rest)
  match cs with
  | '"' :: '"' :: '"' :: rest => several '"' rest
  | '\'' :: '\'' :: '\'' :: rest => several '\'' rest
  | '"' :: rest => basic fuel [] rest
  | '\'' :: rest => literal [] rest
  | _ => none

/-- Digits of a base without the underscores that stand between two of them. -/
def grouped? (base : Nat) : List Char → Option (List Char)
  | [] => some []
  | [c] => if (digitIn? base c).isSome then some [c] else none
  | c :: '_' :: d :: cs =>
    if (digitIn? base c).isSome && (digitIn? base d).isSome then
      (grouped? base (d :: cs)).map (c :: ·)
    else none
  | c :: cs => if (digitIn? base c).isSome then (grouped? base cs).map (c :: ·) else none

/-- An integer without a sign: zero, or digits that do not begin with zero. -/
def plainDigits? (cs : List Char) : Option (List Char) :=
  match cs with
  | [] => none
  | '0' :: _ :: _ => none
  | cs => grouped? 10 cs

/-- A sign, and what follows it. -/
def signed : List Char → Option Bool × List Char
  | '-' :: cs => (some true, cs)
  | '+' :: cs => (some false, cs)
  | cs => (none, cs)

/-- The natural number written in a base. -/
def based? (base : Nat) (cs : List Char) : Option Int :=
  ((grouped? base cs).bind (naturalIn? base)).map Int.ofNat

/-- An integer, which has to fit in 128 bits. -/
def integer? (cs : List Char) : Option Int :=
  let (sign, digits) := signed cs
  let n := match digits with
    | '0' :: 'x' :: cs => if sign.isSome then none else based? 16 cs
    | '0' :: 'o' :: cs => if sign.isSome then none else based? 8 cs
    | '0' :: 'b' :: cs => if sign.isSome then none else based? 2 cs
    | cs => ((plainDigits? cs).bind natural?).map fun n =>
      if sign = some true then -(n : Int) else n
  n.filter fun n => -170141183460469231731687303715884105728 ≤ n &&
    n ≤ 340282366920938463463374607431768211455

/-- The digits of a fraction or exponent. -/
def someDigits? (cs : List Char) : Option (List Char) :=
  if cs.isEmpty then none else grouped? 10 cs

/-- A double.  One that is infinite has to say so. -/
def float? (cs : List Char) : Option Float := do
  let (sign, body) := signed cs
  let negative := sign = some true
  if body = "inf".toList then return Decimal.infinity negative
  if body = "nan".toList then return Decimal.notANumber
  let head := body.takeWhile fun c => c != 'e' && c != 'E'
  let tail := body.drop head.length
  let exponent ← match tail with
    | [] => some 0
    | _ :: e =>
      let (sign, digits) := signed e
      ((someDigits? digits).bind natural?).map fun n =>
        if sign = some true then -(n : Int) else n
  let (whole, fraction) ← match splitAt '.' head with
    | some (whole, fraction) => (someDigits? fraction).bind fun f =>
        (plainDigits? whole).map fun w => (w, f)
    | none => if tail.isEmpty then none else (plainDigits? head).map fun w => (w, [])
  let digits ← natural? (whole ++ fraction)
  let x := Decimal.Numeral.toFloat ⟨digits, exponent - fraction.length⟩ negative
  if x.isFinite then some x else none

/-- A number of so many digits in a range. -/
def field? (width lo hi : Nat) (cs : List Char) : Option (Nat × List Char) :=
  if (cs.take width).length = width && (cs.take width).all isDigit then
    ((natural? (cs.take width)).filter fun n => lo ≤ n && n ≤ hi).map (·, cs.drop width)
  else none

def expect? (c : Char) : List Char → Option (List Char)
  | d :: cs => if d == c then some cs else none
  | [] => none

/-- The days of a month. -/
def monthLength (year month : Nat) : Nat :=
  if month = 2 then
    if year % 4 = 0 ∧ (year % 100 ≠ 0 ∨ year % 400 = 0) then 29 else 28
  else if [4, 6, 9, 11].contains month then 30 else 31

def date? (cs : List Char) : Option (List Char) := do
  let (year, cs) ← field? 4 0 9999 cs
  let (month, cs) ← field? 2 1 12 (← expect? '-' cs)
  let (_, cs) ← field? 2 1 (monthLength year month) (← expect? '-' cs)
  return cs

def time? (cs : List Char) : Option (List Char) := do
  let (_, cs) ← field? 2 0 23 cs
  let (_, cs) ← field? 2 0 59 (← expect? ':' cs)
  let (_, cs) ← field? 2 0 60 (← expect? ':' cs)
  match cs with
  | '.' :: cs => if (cs.head?.map isDigit).getD false then some (cs.dropWhile isDigit) else none
  | cs => some cs

def offset? : List Char → Option (List Char)
  | c :: cs =>
    if c == 'Z' || c == 'z' then some cs
    else if c == '+' || c == '-' then do
      let (_, cs) ← field? 2 0 23 cs
      let (_, cs) ← field? 2 0 59 (← expect? ':' cs)
      return cs
    else some (c :: cs)
  | [] => some []

/-- Whether a text is a date, a time of day, or both, with an offset or not. -/
def isDateTime (cs : List Char) : Bool :=
  match date? cs with
  | some [] => true
  | some (c :: rest) =>
    (c == 'T' || c == 't' || c == ' ') && (time? rest).bind offset? == some []
  | none => time? cs == some []

/-- A date with or without a time as a value: a record without any known member. -/
def dateTimeData (cs : List Char) : Data := .record [("date-time", .text (String.ofList cs))]

/-- The value of a word: a truth value, a number or a date. -/
def wordData? (cs : List Char) : Option Data :=
  if cs = "true".toList then some (.bool true)
  else if cs = "false".toList then some (.bool false)
  else match integer? cs with
    | some n => some (.int n)
    | none =>
      match float? cs with
      | some x => some (.float x)
      | none => if isDateTime cs then some (dateTimeData cs) else none

def isWordChar (c : Char) : Bool := c.isAlphanum || "+-_.:".toList.contains c

/-- A word and what follows it.  A date and a time may have a blank between them. -/
def word? (cs : List Char) : Option (Data × List Char) :=
  let first := cs.takeWhile isWordChar
  let rest := cs.drop first.length
  let longer := match rest with
    | ' ' :: more =>
      let second := more.takeWhile isWordChar
      if date? first == some [] && (second.head?.map isDigit).getD false then
        some (first ++ ' ' :: second, more.drop second.length)
      else none
    | _ => none
  let (word, rest) := longer.getD (first, rest)
  (wordData? word).map (·, rest)

end ScanFleet.Toml
