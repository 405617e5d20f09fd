import ScanFleet.Data.Value

/-! Reading values of a known shape.  A record may be written as the list of its members in their
order.  Members that are not known are skipped; a known one may not be repeated.  The text is looked
at from the front: the first fault in it counts, whether the text is malformed there or does not fit
the shape. -/

namespace ScanFleet.Data

/-- What stops the reading of a value. -/
inductive Fault where
  /-- The text is malformed. -/
  | malformed
  /-- The text is well formed up to here and does not fit. -/
  | unfit
deriving DecidableEq, Repr

/-- How a value of type `α` is read. -/
abbrev Shape (α : Type) := Data → Except Fault α

/-- The fault of a value that is not of the wanted kind. -/
def misfit : Data → Fault
  | .broken => .malformed
  | .unpaired => .malformed
  | .nameless _ => .malformed
  | .float x => if x.isInf then .malformed else .unfit
  | _ => .unfit

namespace Shape

def text : Shape String
  | .text s => .ok s
  | d => .error (misfit d)

def bool : Shape Bool
  | .bool b => .ok b
  | d => .error (misfit d)

/-- An integer from `lo` to `hi`, written as such. -/
def int (lo hi : Int) : Shape Int
  | .int n => if lo ≤ n ∧ n ≤ hi then .ok n else .error .unfit
  | d => .error (misfit d)

def nat (hi : Nat) : Shape Nat := fun d => (int 0 hi d).map Int.toNat

/-- A number, which may be written as an integer. -/
def float : Shape Float
  | .int n => .ok (.ofInt n)
  | .float x => if x.isInf then .error .malformed else .ok x
  | d => .error (misfit d)

/-- A value that may be `null`. -/
def optional {α : Type} (shape : Shape α) : Shape (Option α)
  | .null => .ok none
  | d => (shape d).map some

def listOf {α : Type} (shape : Shape α) : Shape (List α)
  | .list items => items.mapM shape
  | d => .error (misfit d)

/-- A member that is skipped. -/
def skipped : Shape Unit := fun d => if d.isWhole then .ok () else .error .malformed

end Shape

/-- Where a member may be missing. -/
inductive Presence where
  | required
  /-- In a record, and not in a list. -/
  | optional
  /-- Anywhere, because there is a value to take instead. -/
  | defaulted
deriving DecidableEq, Repr

/-- A member of a record: its name, the shape it must have, and where it may be missing. -/
structure Member where
  name : String
  fits : Data → Except Fault Unit
  presence : Presence

/-- A member of a shape. -/
def member {α : Type} (name : String) (shape : Shape α) (presence : Presence) : Member :=
  ⟨name, fun d => (shape d).map fun _ => (), presence⟩

/-- A member that must be there. -/
def required {α : Type} (name : String) (shape : Shape α) : Member := member name shape .required

/-- A member that may be `null` or missing. -/
def optional {α : Type} (name : String) (shape : Shape α) : Member :=
  member name (Shape.optional shape) .optional

/-- A member that may be missing. -/
def defaulted {α : Type} (name : String) (shape : Shape α) : Member := member name shape .defaulted

/-- Looks at the members of a record from the front and keeps the known ones. -/
def readMembers (spec : List Member) (seen : List (String × Data)) :
    List (String × Data) → Except Fault (List (String × Data))
  | [] => .ok seen
  | (_, .nameless d) :: _ => .error (misfit (.nameless d))
  | (name, d) :: rest =>
    match spec.find? (·.name == name) with
    | none =>
      match Shape.skipped d with
      | .error e => .error e
      | .ok _ => readMembers spec seen rest
    | some m =>
      if (seen.lookup name).isSome then .error .unfit
      else match m.fits d with
        | .error e => .error e
        | .ok _ => readMembers spec ((name, d) :: seen) rest

/-- Looks at the members of a record that is written as a list.  Only those at the end may be
missing.  Items that are left over make the text malformed unless `lax` allows them. -/
def readItems (lax : Bool) (seen : List (String × Data)) :
    List Member → List Data → Except Fault (List (String × Data))
  | [], [] => .ok seen
  | [], _ :: _ => if lax then .ok seen else .error .malformed
  | m :: spec, [] => if m.presence = .defaulted then readItems lax seen spec [] else .error .unfit
  | m :: spec, d :: ds =>
    match m.fits d with
    | .error e => .error e
    | .ok _ => readItems lax ((m.name, d) :: seen) spec ds

/-- How records are read. -/
structure RecordRules where
  /-- The members in their order. -/
  members : List Member
  /-- Whether a list may have more items than there are members. -/
  lax : Bool

/-- The known members of a record, each of which has its shape. -/
def readRecord (rules : RecordRules) : Shape (List (String × Data))
  | .record members =>
    match readMembers rules.members [] members with
    | .error e => .error e
    | .ok found =>
      if rules.members.all fun m => m.presence != .required || (found.lookup m.name).isSome then
        .ok found
      else .error .unfit
  | .list items => readItems rules.lax [] rules.members items
  | d => .error (misfit d)

/-- The value of a member that was found, or `none`. -/
def found? {α : Type} (members : List (String × Data)) (name : String) (shape : Shape α) :
    Option α :=
  (members.lookup name).bind fun d => (shape d).toOption

/-- The text of a member, empty if there is none. -/
def foundText (members : List (String × Data)) (name : String) : String :=
  (found? members name Shape.text).getD ""

end ScanFleet.Data
