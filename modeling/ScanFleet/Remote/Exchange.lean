import ScanFleet.Url.Basic

/-! Exchanges with other services: what is posted to them and what comes back. -/

namespace ScanFleet.Remote

/-- A posted message. -/
structure Post where
  url : String
  headers : List (String × String)
  body : String
deriving DecidableEq, Repr

/-- What came back. -/
inductive Reply where
  /-- The service could not be reached. -/
  | unreachable
  | answered (status : Nat) (body : String)
deriving DecidableEq, Repr

/-- The header that presents a token.  The blank after the scheme of an empty token is lost. -/
def bearer (token : String) : String × String :=
  ("authorization", if token.isEmpty then "Bearer" else "Bearer " ++ token)

def jsonContent : String × String := ("content-type", "application/json")

end ScanFleet.Remote
