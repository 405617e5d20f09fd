import ScanFleet.Text.Blank
import ScanFleet.Text.Numeral

/-! Sets of hours of the day.  A set is kept as the ascending list of its members, so two sets are
equal when they have the same members. -/

namespace ScanFleet

open Text

/-- A set of small numbers, ascending and without repetition. -/
structure Hours where
  list : List Nat
deriving DecidableEq, Repr, Inhabited

/-- The set with the members of a list that are below 256. -/
def Hours.ofList (l : List Nat) : Hours := ⟨(List.range 256).filter (l.contains ·)⟩

def Hours.empty : Hours := ⟨[]⟩

def Hours.isEmpty (h : Hours) : Bool := h.list.isEmpty

def Hours.contains (h : Hours) (hour : Nat) : Bool := h.list.contains hour

/-- The least member. -/
def Hours.earliest? (h : Hours) : Option Nat := h.list.head?

/-- The hour that one entry of a stored list names; anything else is no hour. -/
def readHour? (s : String) : Option Nat :=
  ((bounded? 0 255 (trim s)).map Int.toNat).filter (· < 24)

/-- The hours named between commas; entries that are no hour of a day are skipped. -/
def Hours.read (s : String) : Hours := .ofList ((commaFields s).filterMap readHour?)

def Hours.text (h : Hours) : String := ",".intercalate (h.list.map toString)

end ScanFleet
