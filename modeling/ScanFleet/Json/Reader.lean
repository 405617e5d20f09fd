import ScanFleet.Data.Value
import ScanFleet.Decimal.Numeral

/-! Reading JSON.  The grammar is strict: no leading zeros, no comma before a closing bracket, no
control characters in strings.  A number without fraction and exponent is an integer if it fits in
64 bits with or without a sign, and a double otherwise.  A reader yields the value and the rest of
the text, or a value that ends in `Data.broken` and no rest. -/

namespace ScanFleet.Json

open Text

/-- Whether a character may stand between tokens. -/
def isSpace (c : Char) : Bool := c == ' ' || c == '\t' || c == '\n' || c == '\r'

def skipSpace (cs : List Char) : List Char := cs.dropWhile isSpace

/-- A value and what follows it; nothing follows where the text is malformed. -/
abbrev Reading := Data × Option (List Char)

def failure : Reading := (.broken, none)

/-- The units of 16 bits that stand for a character from two escapes. -/
def joinSurrogates (high low : Nat) : Char :=
  Char.ofNat (0x10000 + (high - 0xD800) * 0x400 + (low - 0xDC00))

/-- The number in four hexadecimal digits. -/
def hexUnit? : List Char → Option (Nat × List Char)
  | a :: b :: c :: d :: rest => (naturalIn? 16 [a, b, c, d]).map (·, rest)
  | _ => none

def isHighSurrogate (n : Nat) : Bool := 0xD800 ≤ n && n < 0xDC00

def isLowSurrogate (n : Nat) : Bool := 0xDC00 ≤ n && n < 0xE000

/-- The character that a one-letter escape stands for. -/
def escape? : Char → Option Char
  | '"' => some '"'
  | '\\' => some '\\'
  | '/' => some '/'
  | 'b' => some '\x08'
  | 'f' => some '\x0c'
  | 'n' => some '\n'
  | 'r' => some '\r'
  | 't' => some '\t'
  | _ => none

/-- The rest of a string after its opening quotation mark.  The characters so far stand in reverse,
or are absent after an unpaired surrogate. -/
def string (fuel : Nat) (acc : Option (List Char)) (cs : List Char) : Reading :=
  match fuel, cs with
  | 0, _ => failure
  | _, [] => failure
  | fuel + 1, c :: rest =>
    if c == '"' then
      (match acc with
        | some chars => .text (String.ofList chars.reverse)
        | none => .unpaired, some rest)
    else if c == '\\' then
      match rest with
      | 'u' :: rest =>
        match hexUnit? rest with
        | none => failure
        | some (n, rest) =>
          if isHighSurrogate n then
            match rest with
            | '\\' :: 'u' :: more =>
              match hexUnit? more with
              | none => failure
              | some (low, more) =>
                if isLowSurrogate low then
                  string fuel (acc.map (joinSurrogates n low :: ·)) more
                else string fuel none rest
            | _ => string fuel none rest
          else if isLowSurrogate n then string fuel none rest
          else string fuel (acc.map (Char.ofNat n :: ·)) rest
      | e :: rest =>
        match escape? e with
        | none => failure
        | some c => string fuel (acc.map (c :: ·)) rest
      | [] => failure
    else if c.toNat < 0x20 then failure
    else string fuel (acc.map (c :: ·)) rest

/-- The digits at the front of a text, and the rest. -/
def spanDigits (cs : List Char) : List Char × List Char :=
  (cs.takeWhile isDigit, cs.dropWhile isDigit)

/-- The fraction of a number, from its point on. -/
def fraction? : List Char → Option (List Char × List Char)
  | '.' :: cs =>
    match spanDigits cs with
    | ([], _) => none
    | (digits, rest) => some (digits, rest)
  | cs => some ([], cs)

/-- The exponent of a number. -/
def exponent? : List Char → Option (Option Int × List Char)
  | [] => some (none, [])
  | c :: cs =>
    if c == 'e' || c == 'E' then
      let (negative, digits) := match cs with
        | '-' :: ds => (true, ds)
        | '+' :: ds => (false, ds)
        | ds => (false, ds)
      match spanDigits digits with
      | ([], _) => none
      | (digits, rest) =>
        (natural? digits).map fun n => (some (if negative then -(n : Int) else n), rest)
    else some (none, c :: cs)

/-- The value of a number from its parts. -/
def numberValue (negative : Bool) (whole fraction : List Char) (exponent : Option Int) : Data :=
  let digits := (natural? (whole ++ fraction)).getD 0
  let isInteger := fraction.isEmpty && exponent.isNone
  let value : Int := if negative then -(digits : Int) else digits
  if isInteger && !(negative && digits == 0) && -9223372036854775808 ≤ value && value ≤ maxU64 then
    .int value
  else
    .float (Decimal.Numeral.toFloat ⟨digits, exponent.getD 0 - fraction.length⟩ negative)

/-- A number after its sign. -/
def number (negative : Bool) (cs : List Char) : Reading :=
  match spanDigits cs with
  | ([], _) => failure
  | ('0' :: _ :: _, _) => failure
  | (whole, rest) =>
    match fraction? rest with
    | none => failure
    | some (fraction, rest) =>
      match exponent? rest with
      | none => failure
      | some (exponent, rest) => (numberValue negative whole fraction exponent, some rest)

/-- A word with a fixed meaning. -/
def word (literal : String) (d : Data) (cs : List Char) : Reading :=
  match dropHead? literal.toList cs with
  | some rest => (d, some rest)
  | none => failure

mutual

/-- A value, with blanks before it.  The fuel is more than twice the length of the text. -/
def value (fuel : Nat) (cs : List Char) : Reading :=
  match fuel with
  | 0 => failure
  | fuel + 1 =>
    match skipSpace cs with
    | [] => failure
    | c :: rest =>
      match c with
      | 'n' => word "null" .null (c :: rest)
      | 't' => word "true" (.bool true) (c :: rest)
      | 'f' => word "false" (.bool false) (c :: rest)
      | '"' => string fuel (some []) rest
      | '-' => number true rest
      | '[' =>
        match skipSpace rest with
        | ']' :: rest => (.list [], some rest)
        | rest => items fuel [] rest
      | '{' =>
        match skipSpace rest with
        | '}' :: rest => (.record [], some rest)
        | rest => members fuel [] rest
      | _ => if isDigit c then number false (c :: rest) else failure

/-- The items of a list up to its end; those so far stand in reverse. -/
def items (fuel : Nat) (acc : List Data) (cs : List Char) : Reading :=
  match fuel with
  | 0 => (.list (.broken :: acc).reverse, none)
  | fuel + 1 =>
    match value fuel cs with
    | (d, none) => (.list (d :: acc).reverse, none)
    | (d, some rest) =>
      match skipSpace rest with
      | ',' :: rest => items fuel (d :: acc) rest
      | ']' :: rest => (.list (d :: acc).reverse, some rest)
      | _ => (.list (.broken :: d :: acc).reverse, none)

/-- The members of a record up to its end. -/
def members (fuel : Nat) (acc : List (String × Data)) (cs : List Char) : Reading :=
  let brokenHere : Reading := (.record (("", .broken) :: acc).reverse, none)
  match fuel with
  | 0 => brokenHere
  | fuel + 1 =>
    match skipSpace cs with
    | '"' :: rest =>
      match string fuel (some []) rest with
      | (key, some rest) =>
        let (name, named) := match key with
          | .text name => (name, fun d => d)
          | _ => ("", Data.nameless)
        match skipSpace rest with
        | ':' :: rest =>
          match value fuel rest with
          | (d, none) => (.record ((name, named d) :: acc).reverse, none)
          | (d, some rest) =>
            match skipSpace rest with
            | ',' :: rest => members fuel ((name, named d) :: acc) rest
            | '}' :: rest => (.record ((name, named d) :: acc).reverse, some rest)
            | _ => (.record (("", .broken) :: (name, named d) :: acc).reverse, none)
        | _ => (.record ((name, named .broken) :: acc).reverse, none)
      | _ => brokenHere
    | _ => brokenHere

end

/-- The value at the front of a text, and whether nothing but blanks follows it. -/
def readPrefix (s : String) : Data × Bool :=
  let cs := s.toList
  match value (2 * cs.length + 1) cs with
  | (d, some rest) => (d, (skipSpace rest).isEmpty)
  | (d, none) => (d, false)

/-- The value that a text stands for. -/
def read? (s : String) : Option Data :=
  match readPrefix s with
  | (d, true) => some d
  | (_, false) => none

end ScanFleet.Json
