import ScanFleet.Account.Import
import ScanFleet.Fleet.Workers
import ScanFleet.Json.Reader

/-! The bodies of requests: events of workers, their raw reports, and accounts to be added. -/

namespace ScanFleet.Http

open Text Data

/-- Why a body cannot be read. -/
inductive BodyFault where
  /-- The request does not say that the body is JSON. -/
  | notJson
  | malformed
  | unfit
deriving DecidableEq, Repr

def BodyFault.ofFault : Fault → BodyFault
  | .malformed => .malformed
  | .unfit => .unfit

def BodyFault.status : BodyFault → Nat
  | .notJson => 415
  | .malformed => 400
  | .unfit => 422

def BodyFault.message : BodyFault → String
  | .notJson => "Expected request with \x60Content-Type: application/json\x60"
  | .malformed => "Failed to parse the request body as JSON"
  | .unfit => "Failed to deserialize the JSON body into the target type"

/-- The value of a shape in a JSON text. -/
def readBody {α : Type} (shape : Shape α) (s : String) : Except BodyFault α :=
  let (d, isWhole) := Json.readPrefix s
  match shape d with
  | .error e => .error (.ofFault e)
  | .ok a => if isWhole then .ok a else .error .malformed

/-- An event that a worker reports. -/
structure WorkerEvent where
  kind : String
  worker : String
  username : String
deriving DecidableEq, Repr

def WorkerEvent.shape : Shape WorkerEvent := fun d => do
  let found ← readRecord ⟨[required "type" Shape.text, required "uuid" Shape.text,
    defaulted "username" Shape.text], false⟩ d
  return ⟨foundText found "type", foundText found "uuid", foundText found "username"⟩

/-- The kind of one message in a raw report. -/
def messageShape : Shape Nat := fun d => do
  let found ← readRecord ⟨[defaulted "method" (Shape.nat maxU32)], false⟩ d
  return (found? found "method" (Shape.nat maxU32)).getD 0

def rawShape : Shape RawReport := fun d => do
  let level := Shape.int minI32 maxI32
  let found ← readRecord ⟨[required "uuid" Shape.text, defaulted "username" Shape.text,
    defaulted "trainerlvl" level, defaulted "contents" (Shape.listOf messageShape)], false⟩ d
  return { worker := foundText found "uuid",
           username := some (foundText found "username"),
           level := (found? found "trainerlvl" level).getD 0,
           methods := (found? found "contents" (Shape.listOf messageShape)).getD [] }

/-- One of the accounts to be added. -/
def credentialsShape : Shape Credentials := fun d => do
  let found ← readRecord ⟨[required "username" Shape.text, required "password" Shape.text], false⟩ d
  return ⟨foundText found "username", foundText found "password"⟩

/-- Accounts to be added, all of the same level.  Those without a username are left out. -/
def importShape : Shape (List NewAccount) := fun d => do
  let level := Shape.int minI32 maxI32
  let found ← readRecord ⟨[required "accounts" (Shape.listOf credentialsShape),
    defaulted "default_level" level], false⟩ d
  let credentials := (found? found "accounts" (Shape.listOf credentialsShape)).getD []
  return (credentials.filter (·.username != "")).map fun c =>
    ⟨c.username, c.password, (found? found "default_level" level).getD 0⟩

end ScanFleet.Http
