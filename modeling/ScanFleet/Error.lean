/-! The causes for which an operation of the fleet fails, and their wording. -/

namespace ScanFleet

/-- The kind of scanning that an area's workers do. -/
inductive Mode where
  | pokemon
  | quest
deriving DecidableEq, Repr, Inhabited

def Mode.text : Mode → String
  | .pokemon => "pokemon"
  | .quest => "quest"

/-- Why an operation fails. -/
inductive FleetError where
  | noAccountAvailable
  | noAreaNeedsWorkers
  | noTaskAvailable (worker : String)
  | noAreaAllocated (worker : String)
  | accountNotFound (username : String)
  | areaNotFound (area : Int)
  | deviceNotFound (worker : String)
  | stepOutOfRange (area : Int) (mode : String) (step length : Nat)
  | malformedRoute (area : Int) (column reason : String)
  | store (reason : String)
  | routeCalculation (reason : String)
  | questNotifier (reason : String)
  | serialization (reason : String)
  | internal (reason : String)
deriving DecidableEq, Repr

def FleetError.message : FleetError → String
  | .noAccountAvailable => "No account available"
  | .noAreaNeedsWorkers => "No area needs workers"
  | .noTaskAvailable worker => "No task available for worker " ++ worker
  | .noAreaAllocated worker => "No area allocated to worker " ++ worker
  | .accountNotFound username => "Account not found: " ++ username
  | .areaNotFound area => "Area not found: " ++ toString area
  | .deviceNotFound worker => "Device not found: " ++ worker
  | .stepOutOfRange area mode step length =>
    "Step " ++ toString step ++ " is outside the " ++ mode ++ " route of area " ++ toString area ++
      " (length " ++ toString length ++ ")"
  | .malformedRoute area column reason =>
    "Malformed " ++ column ++ " in area " ++ toString area ++ ": " ++ reason
  | .store reason => "Store error: " ++ reason
  | .routeCalculation reason => "Route calculation failed: " ++ reason
  | .questNotifier reason => "Quest notifier failed: " ++ reason
  | .serialization reason => "Serialization error: " ++ reason
  | .internal reason => "Internal error: " ++ reason

end ScanFleet
