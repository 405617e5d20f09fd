import ScanFleet.Config.Layer
import ScanFleet.Text.Alphanumeric

/-! Files of environment variables.  A line is `NAME=value`, with `export` in front if one likes.  A
value ends at a blank unless it is quoted; between double quotes a backslash escapes and a variable
is replaced by its value, between single quotes nothing is special.  A quoted value may go over
several lines.  A variable that is set already keeps its value. -/

namespace ScanFleet.EnvFile

open Text

/-- A line that cannot be read, and the place in it where that shows. -/
structure Fault where
  line : String
  index : Nat
deriving DecidableEq, Repr

/-- Where the scan for the end of an entry stands. -/
inductive Scan where
  | plain
  | escape
  | single
  | singleEscape
  | double
  | doubleEscape
  | blank
deriving DecidableEq, Repr

/-- The scan outside quotes after a character. -/
def Scan.outside (c : Char) : Scan :=
  if c == '\\' then .escape
  else if c == '"' then .double
  else if c == '\'' then .single
  else .plain

/-- The scan after a character. -/
def Scan.next (s : Scan) (c : Char) : Scan :=
  match s with
  | .plain => if isBlank c && c != '\n' && !(c == '\r') then .blank else .outside c
  | .blank => .outside c
  | .escape => .plain
  | .single => if c == '\\' then .singleEscape else if c == '\'' then .plain else .single
  | .singleEscape => .single
  | .double => if c == '\\' then .doubleEscape else if c == '"' then .plain else .double
  | .doubleEscape => .double

/-- The scan after a line, or what stands before a comment in the line. -/
def scanLine (s : Scan) (acc : List Char) : List Char → Except (List Char) Scan
  | [] => .ok s
  | c :: cs =>
    if s = .blank ∧ c == '#' then .error acc.reverse else scanLine (s.next c) (c :: acc) cs

/-- The lines of a text, each with its line break. -/
def linesOf : List Char → List (List Char)
  | [] => []
  | c :: cs =>
    if c == '\n' then [c] :: linesOf cs
    else match linesOf cs with
      | [] => [[c]]
      | line :: rest => (c :: line) :: rest

/-- A text without the line break at its end. -/
def dropBreak (cs : List Char) : List Char :=
  match cs.reverse with
  | '\n' :: '\r' :: rest => rest.reverse
  | '\n' :: rest => rest.reverse
  | _ => cs

/-- The first entry, which may go over several lines, and the lines after it.  The characters so far
stand in `acc`. -/
def entry (acc : List Char) (s : Scan) :
    List (List Char) → Except Fault (List Char × List (List Char))
  | [] => .error ⟨String.ofList acc, (String.ofList acc).utf8ByteSize⟩
  | line :: rest =>
    let all := acc ++ line
    if (all.dropWhile isBlank).head? == some '#' then .ok ([], rest)
    else match scanLine s [] line with
      | .error before => .ok (acc ++ before, rest)
      | .ok .plain => .ok (dropBreak all, rest)
      | .ok s => entry all s rest

/-- How the name of a variable in a value is being read. -/
inductive Naming where
  | none
  /-- After a dollar sign, up to a character that is neither letter nor digit. -/
  | bare (name : List Char)
  /-- Up to a closing brace. -/
  | braced (name : List Char)

/-- Where the reading of a value stands; what is read stands in reverse. -/
structure Reading where
  output : List Char
  single : Bool
  double : Bool
  escaped : Bool
  /-- Whether only blanks and a comment may follow. -/
  ended : Bool
  naming : Naming

def Reading.start : Reading := ⟨[], false, false, false, false, .none⟩

/-- The value of the variable with a name, which stands in reverse. -/
def valueOf (env : Environment) (name : List Char) : List Char :=
  ((env.lookup (String.ofList name.reverse)).getD "").toList

def Reading.write (r : Reading) (cs : List Char) : Reading :=
  { r with output := cs.reverse ++ r.output }

/-- The reading after one more character of a value; `none` where it cannot stand, and the end of
the value where a comment begins. -/
def Reading.step (env : Environment) (r : Reading) (c : Char) : Option (Reading × Bool) :=
  let goOn (r : Reading) : Option (Reading × Bool) := some (r, false)
  if r.ended then
    if c == ' ' || c == '\t' then goOn r else if c == '#' then some (r, true) else none
  else if r.escaped then
    if "\\'\"$ ".toList.contains c then goOn ({ r with escaped := false }.write [c])
    else if c == 'n' then goOn ({ r with escaped := false }.write ['\n'])
    else none
  else if r.single then
    goOn (if c == '\'' then { r with single := false } else r.write [c])
  else match r.naming with
    | .bare name =>
      if isAlphanumeric c then goOn { r with naming := .bare (c :: name) }
      else if c == '{' && name.isEmpty then goOn { r with naming := .braced [] }
      else
        let r := r.write (valueOf env name)
        goOn (if c == '$' then { r with naming := .bare [] }
          else { r with naming := .none }.write [c])
    | .braced name =>
      goOn (if c == '}' then { r with naming := .none }.write (valueOf env name)
        else { r with naming := .braced (c :: name) })
    | .none =>
      goOn (
        if c == '$' then { r with naming := .bare [] }
        else if r.double then
          if c == '"' then { r with double := false }
          else if c == '\\' then { r with escaped := true }
          else r.write [c]
        else if c == '\'' then { r with single := true }
        else if c == '"' then { r with double := true }
        else if c == '\\' then { r with escaped := true }
        else if c == ' ' || c == '\t' then { r with ended := true }
        else r.write [c])

/-- The reading after the rest of a value, from the character number `index` on. -/
def Reading.run (env : Environment) (index : Nat) (r : Reading) : List Char → Except Nat Reading
  | [] => .ok r
  | c :: cs =>
    match r.step env c with
    | none => .error index
    | some (r, true) => .ok r
    | some (r, false) => Reading.run env (index + 1) r cs

/-- The value in the rest of a line. -/
def readValue (env : Environment) (cs : List Char) : Except Fault String :=
  let text := String.ofList cs
  match Reading.run env 0 .start cs with
  | .error index => .error ⟨text, index⟩
  | .ok r =>
    let done (r : Reading) : Except Fault String := .ok (String.ofList r.output.reverse)
    if r.single || r.double then .error ⟨text, text.utf8ByteSize - 1⟩
    else match r.naming with
      | .none => done r
      | .bare name => done (r.write (valueOf env name))
      | .braced _ => .error ⟨text, text.utf8ByteSize - 1⟩

def isNameStart (c : Char) : Bool := c.isAlpha || c == '_'

def isNameChar (c : Char) : Bool := c.isAlphanum || c == '_' || c == '.'

/-- The name at the front of a text, and what follows it. -/
def name? (cs : List Char) : Option (List Char × List Char) :=
  if (cs.head?.map isNameStart).getD false then
    some (cs.takeWhile isNameChar, cs.dropWhile isNameChar)
  else none

/-- What follows an equals sign. -/
def afterEquals? : List Char → Option (List Char)
  | '=' :: cs => some cs
  | _ => none

/-- The name and the text of the value in a line, or how much is left of it where a fault shows. -/
def split? (cs : List Char) : Except Nat (String × List Char) :=
  match name? cs with
  | none => .error cs.length
  | some (name, rest) =>
    let rest := rest.dropWhile isBlank
    match afterEquals? rest with
    | some value => .ok (String.ofList name, value.dropWhile isBlank)
    | none =>
      if name = "export".toList then
        match name? rest with
        | none => .error rest.length
        | some (name, rest) =>
          let rest := rest.dropWhile isBlank
          match afterEquals? rest with
          | some value => .ok (String.ofList name, value.dropWhile isBlank)
          | none => .error rest.length
      else .error rest.length

/-- The variable that a line sets, if it sets one. -/
def readLine (env : Environment) (line : List Char) : Except Fault (Option (String × String)) :=
  let trimmed := (line.reverse.dropWhile isBlank).reverse
  let cs := trimmed.dropWhile isBlank
  if cs.isEmpty || cs.head? == some '#' then .ok none
  else match split? cs with
    | .error left =>
      .error ⟨String.ofList line,
        (String.ofList (trimmed.take (trimmed.length - left))).utf8ByteSize⟩
    | .ok (name, value) =>
      if value.isEmpty || value.head? == some '#' then .ok (some (name, ""))
      else (readValue env value).map fun v => some (name, v)

/-- An environment with a variable that is not yet in it. -/
def setNew (env : Environment) (entry : String × String) : Environment :=
  if (env.lookup entry.1).isSome then env else env ++ [entry]

/-- The environment after the entries in some lines.  Values may name variables of the environment
and, where that has none, of the entries before. -/
def loadLines (fuel : Nat) (env : Environment) (lines : List (List Char)) :
    Except Fault Environment :=
  match fuel, lines with
  | _, [] => .ok env
  | 0, _ => .ok env
  | fuel + 1, lines =>
    match entry [] .plain lines with
    | .error e => .error e
    | .ok (line, rest) =>
      match readLine env line with
      | .error e => .error e
      | .ok none => loadLines fuel env rest
      | .ok (some new) => loadLines fuel (setNew env new) rest

/-- The environment after the entries of a file. -/
def load (env : Environment) (text : String) : Except Fault Environment :=
  let cs := match text.toList with
    | '\ufeff' :: cs => cs
    | cs => cs
  let lines := linesOf cs
  loadLines (lines.length + 1) env lines

end ScanFleet.EnvFile
