import ScanFleet.Error
import ScanFleet.Url.Reader

/-! Connecting to the database in which a fleet is kept. -/

namespace ScanFleet

/-- Why there is no connection to a database. -/
inductive ConnectError where
  | invalidUrl (cause : UrlError)
  /-- No connection is allowed, and waiting for one ends. -/
  | noneAllowed
  /-- The database cannot be talked to. -/
  | unreachable (cause : String)
deriving DecidableEq, Repr

def ConnectError.message : ConnectError → String
  | .invalidUrl cause => "error with configuration: " ++ cause.message
  | .noneAllowed => "pool timed out while waiting for an open connection"
  | .unreachable cause => "error communicating with database: " ++ cause

/-- The failure of an operation that needs the database. -/
def ConnectError.failure (e : ConnectError) : FleetError :=
  .store ("Failed to connect to database: " ++ e.message)

/-- Connects to the database at a URL with so many connections at most.  `dial` is asked for the
connection when there is a URL to go to. -/
def connect {κ : Type} (dial : Url → Except String κ) (url : String) (maxConnections : Nat) :
    Except FleetError κ :=
  match Url.read url with
  | .error e => .error (ConnectError.invalidUrl e).failure
  | .ok u =>
    if maxConnections = 0 then .error ConnectError.noneAllowed.failure
    else
      match dial u with
      | .ok connection => .ok connection
      | .error cause => .error (ConnectError.unreachable cause).failure

end ScanFleet
