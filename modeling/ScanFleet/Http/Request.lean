import ScanFleet.Data.Value
import ScanFleet.Http.MediaType
import ScanFleet.Url.Address

/-! Requests to the controller and its answers. -/

namespace ScanFleet.Http

open Text

/-- A request.  A query and a fragment may follow the path. -/
structure Request where
  method : String
  path : String
  headers : List (String × String)
  body : String
  /-- Where the request comes from, if that is known. -/
  peer : Option Url.Address
deriving Repr

/-- The content of an answer. -/
inductive Body where
  | empty
  | text (s : String)
  | json (d : Data)

/-- An answer. -/
structure Response where
  status : Nat
  body : Body

/-- The value of a header, whose name may be in any case. -/
def Request.header? (r : Request) (name : String) : Option String :=
  (r.headers.find? fun header => asciiLower header.1 == asciiLower name).map (·.2)

/-- Whether a character of a header can be shown. -/
def isShown (c : Char) : Bool := c == '\t' || (0x20 ≤ c.toNat && c.toNat < 0x7F)

/-- The value of a header; one that is missing or cannot be shown is empty. -/
def Request.headerText (r : Request) (name : String) : String :=
  ((r.header? name).filter (·.toList.all isShown)).getD ""

/-- The path without what follows it: a query or a fragment. -/
def Request.route (r : Request) : String :=
  String.ofList (r.path.toList.takeWhile fun c => c != '?' && c != '#')

/-- The address that a request comes from. -/
def Request.host (r : Request) : Option String := r.peer.map Url.Address.text

/-- Whether a request says that its body is JSON. -/
def Request.isJson (r : Request) : Bool :=
  ((MediaType.read? (r.headerText "content-type")).map MediaType.isJson).getD false

end ScanFleet.Http
