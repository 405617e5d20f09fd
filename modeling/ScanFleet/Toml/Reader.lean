import ScanFleet.Toml.Scalar
import ScanFleet.Toml.Table

/-! Reading TOML documents of version 1.0.  The result is one record; a key that is set twice, or a
table that is opened twice, makes the document malformed. -/

namespace ScanFleet.Toml

open Text

def skipBlanks (cs : List Char) : List Char := cs.dropWhile fun c => c == ' ' || c == '\t'

/-- The rest of the text after a comment, if one begins here; a control character is refused. -/
def skipComment? (cs : List Char) : Option (List Char) :=
  match cs with
  | '#' :: rest =>
    let body := rest.takeWhile fun c => c != '\n' && !(c == '\r')
    if body.any isControl then none else some (rest.drop body.length)
  | cs => some cs

/-- Skips blanks, comments and line breaks. -/
def skipLines (fuel : Nat) (cs : List Char) : Option (List Char) :=
  match fuel with
  | 0 => none
  | fuel + 1 =>
    (skipComment? (skipBlanks cs)).bind fun rest =>
      match afterBreak? rest with
      | some rest => skipLines fuel rest
      | none => some rest

/-- What follows the end of the line: blanks and a comment may come before it. -/
def endLine? (cs : List Char) : Option (List Char) :=
  (skipComment? (skipBlanks cs)).bind fun rest =>
    match rest with
    | [] => some []
    | rest => afterBreak? rest

def isBareKeyChar (c : Char) : Bool := c.isAlphanum || c == '_' || c == '-'

/-- One part of a key. -/
def keyPart? (fuel : Nat) (cs : List Char) : Option (String × List Char) :=
  match cs with
  | '"' :: rest => basic fuel [] rest
  | '\'' :: rest => literal [] rest
  | cs =>
    let name := cs.takeWhile isBareKeyChar
    if name.isEmpty then none else some (String.ofList name, cs.drop name.length)

/-- The parts of a key between points, with blanks around each. -/
def keyParts? (fuel : Nat) (cs : List Char) : Option (List String × List Char) :=
  match fuel with
  | 0 => none
  | fuel + 1 => do
    let (part, rest) ← keyPart? fuel (skipBlanks cs)
    match skipBlanks rest with
    | '.' :: rest =>
      let (parts, rest) ← keyParts? fuel rest
      return (part :: parts, rest)
    | rest => return ([part], rest)

/-- The number of parts that a key may have, and of values that may stand inside each other. -/
def maxDepth : Nat := 80

/-- A key of one or more parts. -/
def key? (fuel : Nat) (cs : List Char) : Option (List String × List Char) :=
  (keyParts? fuel cs).filter fun key => key.1.length ≤ maxDepth

mutual

/-- A value, inside which others may stand `depth` deep.  The fuel is more than twice the length of
the text. -/
def value? (fuel depth : Nat) (cs : List Char) : Option (Data × List Char) :=
  match fuel with
  | 0 => none
  | fuel + 1 =>
    match cs, depth with
    | '"' :: _, _ | '\'' :: _, _ => (string? fuel cs).map fun (s, rest) => (.text s, rest)
    | '[' :: _, 0 | '{' :: _, 0 => none
    | '[' :: rest, depth + 1 => items? fuel depth [] rest
    | '{' :: rest, depth + 1 =>
      match skipBlanks rest with
      | '}' :: rest => some (.record [], rest)
      | rest => inline? fuel depth [] rest
    | cs, _ => word? cs

/-- The items of a list up to its closing bracket; those so far stand in reverse. -/
def items? (fuel depth : Nat) (acc : List Data) (cs : List Char) : Option (Data × List Char) :=
  match fuel with
  | 0 => none
  | fuel + 1 => do
    match ← skipLines fuel cs with
    | ']' :: rest => return (.list acc.reverse, rest)
    | cs =>
      let (d, rest) ← value? fuel depth cs
      match ← skipLines fuel rest with
      | ',' :: rest => items? fuel depth (d :: acc) rest
      | ']' :: rest => return (.list (d :: acc).reverse, rest)
      | _ => none

/-- The members of an inline table up to its closing brace. -/
def inline? (fuel depth : Nat) (ms : Members) (cs : List Char) : Option (Data × List Char) :=
  match fuel with
  | 0 => none
  | fuel + 1 => do
    let (path, rest) ← key? fuel cs
    let rest ← expect? '=' rest
    let (d, rest) ← value? fuel depth (skipBlanks rest)
    let ms ← addValue d ms path
    match skipBlanks rest with
    | ',' :: rest => inline? fuel depth ms rest
    | '}' :: rest => return (.record (membersData ms), rest)
    | _ => none

end

/-- A header from its first bracket on: the tables and the key it names, and what follows it. -/
def header? (fuel : Nat) (cs : List Char) : Option (Bool × List String × List Char) :=
  match cs with
  | '[' :: '[' :: rest => do
    let (path, rest) ← key? fuel rest
    let rest ← expect? ']' (← expect? ']' rest)
    return (true, path, rest)
  | '[' :: rest => do
    let (path, rest) ← key? fuel rest
    return (false, path, ← expect? ']' rest)
  | _ => none

/-- Opens the table that a header names. -/
def openHeader (isList : Bool) (path : List String) (root : Members) : Option Members :=
  match path.getLast? with
  | none => none
  | some key => under path.dropLast (if isList then appendTable key else openTable key) root

/-- The lines of a document, read into the table that was opened last. -/
def lines? (fuel : Nat) (current : List String) (root : Members) (cs : List Char) :
    Option Members :=
  match fuel with
  | 0 => none
  | fuel + 1 => do
    match ← skipLines fuel cs with
    | [] => return root
    | '[' :: rest =>
      let (isList, path, rest) ← header? fuel ('[' :: rest)
      lines? fuel path (← openHeader isList path root) (← endLine? rest)
    | cs =>
      let (path, rest) ← key? fuel cs
      let rest ← expect? '=' rest
      let (d, rest) ← value? fuel maxDepth (skipBlanks rest)
      lines? fuel current (← under current (addValue d · path) root) (← endLine? rest)

/-- The record that a document stands for. -/
def read? (s : String) : Option Data :=
  let cs := match s.toList with
    | '\ufeff' :: cs => cs
    | cs => cs
  (lines? (2 * cs.length + 2) [] [] cs).map fun ms => .record (membersData ms)

end ScanFleet.Toml
