import ScanFleet.Geo.Location
import ScanFleet.Decimal.Numeral

/-! Routes as they are stored: points between commas, each a latitude and a longitude between
blanks.  A blank text is the empty route.  Writing has six decimal places. -/

namespace ScanFleet

open Text Decimal

/-- What is wrong with a stored route. -/
inductive RouteError where
  | missingCoordinate (index : Nat)
  | invalidCoordinate (index : Nat) (value : String)
deriving DecidableEq, Repr

def RouteError.message : RouteError → String
  | .missingCoordinate index => "route step " ++ toString index ++ " does not have lat and lon"
  | .invalidCoordinate index value =>
    "route step " ++ toString index ++ " has an invalid coordinate '" ++ value ++ "'"

/-- Reads one coordinate of the step `index`. -/
def readCoordinate (index : Nat) (cs : List Char) : Except RouteError Float :=
  match Decimal.read? cs with
  | some x => .ok x
  | none => .error (.invalidCoordinate index (String.ofList cs))

/-- Reads one step; what follows its second word is not looked at. -/
def readStep (index : Nat) (cs : List Char) : Except RouteError Location :=
  match words cs with
  | lat :: lon :: _ =>
    match readCoordinate index lat with
    | .error e => .error e
    | .ok latitude =>
      match readCoordinate index lon with
      | .error e => .error e
      | .ok longitude => .ok ⟨latitude, longitude⟩
  | _ => .error (.missingCoordinate index)

/-- Reads the steps from number `index` on; the first fault is reported. -/
def readSteps (index : Nat) : List (List Char) → Except RouteError Route
  | [] => .ok []
  | step :: steps =>
    match readStep index step with
    | .error e => .error e
    | .ok l =>
      match readSteps (index + 1) steps with
      | .error e => .error e
      | .ok ls => .ok (l :: ls)

/-- The route that a text stands for. -/
def Route.read (s : String) : Except RouteError Route :=
  if s.toList.all isBlank then .ok [] else readSteps 0 (split (· == ',') s.toList)

/-- One step as it is stored. -/
def stepText (l : Location) : String :=
  coordinateText l.latitude ++ " " ++ coordinateText l.longitude

/-- The text that a route is stored as. -/
def Route.text (r : Route) : String := ",".intercalate (r.map stepText)

end ScanFleet
