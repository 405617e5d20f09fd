import ScanFleet.Data.Value
import ScanFleet.Error

/-! Failures as HTTP answers: a status and a message.  What a store says is not shown. -/

namespace ScanFleet.Http

/-- A failed request. -/
structure Failure where
  status : Nat
  message : String
deriving DecidableEq, Repr

def Failure.badRequest (message : String) : Failure := ⟨400, message⟩

def Failure.unauthorized (message : String) : Failure := ⟨401, message⟩

def Failure.internal (message : String) : Failure := ⟨500, message⟩

/-- The status of a failed operation. -/
def statusOf : FleetError → Nat
  | .accountNotFound _ | .areaNotFound _ | .deviceNotFound _ => 404
  | .noAccountAvailable | .noAreaNeedsWorkers | .noAreaAllocated _ | .noTaskAvailable _ => 409
  | .malformedRoute .. | .serialization _ => 400
  | .routeCalculation _ | .questNotifier _ => 502
  | .store _ | .stepOutOfRange .. | .internal _ => 500

def Failure.ofError (e : FleetError) : Failure :=
  match e with
  | .store _ => ⟨500, "Store operation failed"⟩
  | e => ⟨statusOf e, e.message⟩

/-- The value that is answered. -/
def Failure.data (f : Failure) : Data :=
  .record [("error", .record [("message", .text f.message), ("status", .ofNat f.status)])]

end ScanFleet.Http
