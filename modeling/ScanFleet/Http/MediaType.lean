import ScanFleet.Text.Blank

/-! Media types: what a message says that it holds, such as `application/json; charset=utf-8`.  The
parameters are checked and not kept. -/

namespace ScanFleet.Http

open Text

/-- A media type in lower case.  What follows the last plus of a subtype is its suffix. -/
structure MediaType where
  type : String
  subtype : String
  suffix : Option String
deriving DecidableEq, Repr

namespace MediaType

/-- Whether a character may stand in a part of a media type. -/
def isTokenChar (c : Char) : Bool := c.isAlphanum || "!#$%&'*+-.^_\x60|~".toList.contains c

/-- Whether a character may stand between quotation marks; there are no escapes there. -/
def isQuotable (c : Char) : Bool := 0x20 ≤ c.toNat && c.toNat ≠ 0x7F

/-- What follows a semicolon after some blanks; nothing may follow in place of it. -/
def afterSemicolon? (cs : List Char) : Option (List Char) :=
  match cs.dropWhile (· == ' ') with
  | [] => some []
  | c :: rest => if c == ';' then some rest else none

/-- What follows a value whose opening quotation mark has been read.  A mark closes the value unless
it is the first character in it. -/
def afterQuoted? : List Char → Option (List Char)
  | [] => none
  | first :: cs =>
    match splitAt '"' cs with
    | none => none
    | some (value, rest) =>
      if (first :: value).all isQuotable then afterSemicolon? rest else none

/-- What follows a value without quotation marks, which is empty only at the end. -/
def afterToken? (cs : List Char) : Option (List Char) :=
  match cs.takeWhile isTokenChar, cs.dropWhile isTokenChar with
  | _, [] => some []
  | [], _ :: _ => none
  | _ :: _, c :: rest => if c == ';' then some rest else none

/-- What follows a parameter: a name, an equals sign and a value. -/
def afterParameter? (cs : List Char) : Option (List Char) :=
  match splitAt '=' cs with
  | none => none
  | some (name, value) =>
    if name.isEmpty || !name.all isTokenChar then none
    else match value with
      | '"' :: quoted => afterQuoted? quoted
      | value => afterToken? value

/-- Whether a text is a row of parameters, each of which may have spaces before it. -/
def areParameters (fuel : Nat) (cs : List Char) : Bool :=
  match fuel, cs.dropWhile (· == ' ') with
  | _, [] => true
  | 0, _ => false
  | fuel + 1, cs => ((afterParameter? cs).map (areParameters fuel)).getD false

/-- The subtype before its last plus and what follows that; one at the front is part of the
subtype. -/
def splitSuffix (subtype : List Char) : List Char × Option (List Char) :=
  match splitAt '+' subtype.reverse with
  | none | some (_, []) => (subtype, none)
  | some (suffix, front) => (front.reverse, some suffix.reverse)

/-- The media type that a text names. -/
def read? (s : String) : Option MediaType :=
  match splitAt '/' (asciiLower s).toList with
  | none => none
  | some (type, rest) =>
    let name := rest.takeWhile isTokenChar
    let parameters := rest.dropWhile isTokenChar
    let (subtype, suffix) := splitSuffix name
    let isRead := match parameters with
      | [] => true
      | c :: cs => c == ';' && !name.isEmpty && areParameters cs.length cs
    if isRead && !type.isEmpty && type.all isTokenChar then
      some ⟨String.ofList type, String.ofList subtype, suffix.map String.ofList⟩
    else none

/-- Whether a media type is JSON, or a kind of it. -/
def isJson (t : MediaType) : Bool :=
  t.type == "application" && (t.subtype == "json" || t.suffix == some "json")

end MediaType

end ScanFleet.Http
