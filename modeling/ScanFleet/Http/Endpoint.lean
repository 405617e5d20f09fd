import ScanFleet.Http.Request
import ScanFleet.Text.Numeral
import ScanFleet.Url.Percent

/-! The endpoints of the controller, the paths they are found at, and who may call them. -/

namespace ScanFleet.Http

open Text

/-- What can be asked of the controller. -/
inductive Endpoint where
  | health
  | controller
  | raw
  | areas
  | reloadAreas
  /-- The area is named by a part of the path. -/
  | startQuest (area : String)
  | workers
  | accounts
  | reloadAccounts
deriving DecidableEq, Repr

/-- Who has to present a secret. -/
inductive Guard where
  | anyone
  /-- Workers. -/
  | device
  /-- Operators. -/
  | operator
deriving DecidableEq, Repr

/-- The part of the path that names the area whose quest scanning is started.  It may be empty. -/
def questArea? (path : String) : Option String :=
  (dropHead? "/api/areas/".toList path.toList).bind fun rest =>
    match splitAt '/' rest with
    | some (area, after) => if after = "quest".toList then some (String.ofList area) else none
    | none => none

/-- The endpoint at a path. -/
def Endpoint.ofPath? (path : String) : Option Endpoint :=
  match path with
  | "/health" => some .health
  | "/controler" => some .controller
  | "/controller" => some .controller
  | "/raw" => some .raw
  | "/api/areas" => some .areas
  | "/api/areas/reload" => some .reloadAreas
  | "/api/workers" => some .workers
  | "/api/accounts" => some .accounts
  | "/api/accounts/reload" => some .reloadAccounts
  | path => (questArea? path).map .startQuest

def Endpoint.guard : Endpoint → Guard
  | .health => .anyone
  | .controller | .raw => .device
  | _ => .operator

/-- The methods of an endpoint. -/
def Endpoint.methods : Endpoint → List String
  | .health | .areas | .workers => ["GET", "HEAD"]
  | .accounts => ["GET", "HEAD", "POST"]
  | _ => ["POST"]

/-- The id of an area in a part of a path. -/
def areaId? (segment : String) : Option Int :=
  (Url.decodeText? segment).bind (bounded? minI32 maxI32)

end ScanFleet.Http
