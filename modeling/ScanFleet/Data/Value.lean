/-! Structured values: what a text in one of the data formats stands for.  The members of a record
are kept as they are written, repeated ones included. -/

namespace ScanFleet

/-- A structured value.  `broken` marks the place where the text it is read from turns out to be
malformed, and nothing follows it.  A string that cannot be a text, because an escape in it names
half a character, is `unpaired`, and where it is a name, the value of the member is `nameless`.
That does no harm where the content is not asked for, and the same holds of a number too large for a
double, which is infinite here. -/
inductive Data where
  | null
  | bool (b : Bool)
  | int (n : Int)
  | float (x : Float)
  | text (s : String)
  | unpaired
  | list (items : List Data)
  | record (members : List (String × Data))
  | nameless (value : Data)
  | broken
deriving Inhabited

namespace Data

def ofNat (n : Nat) : Data := .int n

def ofOption {α : Type} (f : α → Data) : Option α → Data
  | none => .null
  | some a => f a

/-- A number; one that is infinite or not a number has no such form and is `null`. -/
def ofFloat (x : Float) : Data := if x.isFinite then .float x else .null

def ofStrings (l : List String) : Data := .list (l.map .text)

def isNull : Data → Bool
  | .null => true
  | _ => false

mutual

/-- Whether the text of the value is well formed. -/
def isWhole : Data → Bool
  | .broken => false
  | .list items => areWhole items
  | .record members => membersWhole members
  | .nameless d => isWhole d
  | _ => true

def areWhole : List Data → Bool
  | [] => true
  | d :: ds => isWhole d && areWhole ds

def membersWhole : List (String × Data) → Bool
  | [] => true
  | (_, d) :: ms => isWhole d && membersWhole ms

end

/-- The member of a name in a record; of repeated ones the first. -/
def member? (d : Data) (name : String) : Option Data :=
  match d with
  | .record members => members.lookup name
  | _ => none

end Data

end ScanFleet
