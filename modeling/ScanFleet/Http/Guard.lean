import ScanFleet.Config.Basic
import ScanFleet.Http.Endpoint

/-! The guards of the endpoints.  Where a secret is configured, workers have to present it as a
bearer token and operators in a header of its own; where none is, everyone is let in. -/

namespace ScanFleet.Http

open Text

/-- The header in which operators present the secret. -/
def secretHeader : String := "X-Fleet-Secret"

/-- The token that a worker presents. -/
def Request.bearerToken? (r : Request) : Option String :=
  (dropHead? "Bearer ".toList (r.headerText "authorization").toList).map String.ofList

/-- Whether a request may pass a guard. -/
def Guard.admits (g : Guard) (config : GeneralConfig) (r : Request) : Bool :=
  match g with
  | .anyone => true
  | .device =>
    match config.bearerToken with
    | none => true
    | some token => r.bearerToken? == some token
  | .operator =>
    match config.apiSecret with
    | none => true
    | some secret => r.headerText secretHeader == secret

/-- The answer to a request that may not pass. -/
def unauthorised : Response := ⟨401, .text "Unauthorised"⟩

end ScanFleet.Http
