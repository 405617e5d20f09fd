import ScanFleet.Data.Shape
import ScanFleet.Http.Status
import ScanFleet.Json.Reader
import ScanFleet.Json.Writer
import ScanFleet.Remote.Exchange
import ScanFleet.Service

/-! The calculator of routes: a service that is asked for a short way past the points of interest
inside an outline. -/

namespace ScanFleet.Remote

open Data

/-- Where the calculator is, and the token it asks for. -/
structure RouteCalculator where
  base : Url
  token : Option String
deriving DecidableEq, Repr

namespace RouteCalculator

def url (c : RouteCalculator) : String := dropSlashes c.base.text ++ "/api/v1/calc/route/pokestop"

/-- What is asked. -/
def question (name : String) (outline : List Location) : Data :=
  .record [("instance", .text name), ("radius", .int 78), ("routing_time", .int 5),
    ("min_points", .int 1), ("fast", .bool false),
    ("area", .list (outline.map fun l => .list [.ofFloat l.latitude, .ofFloat l.longitude])),
    ("return_type", .text "multi_array")]

def post (c : RouteCalculator) (name : String) (outline : List Location) : Post where
  url := c.url
  headers := jsonContent :: c.token.toList.map bearer
  body := Json.text (question name outline)

def statsMembers : List Member :=
  [defaulted "total_points" (Shape.nat Text.maxU64), defaulted "points_covered"
    (Shape.nat Text.maxU64), defaulted "total_distance" Shape.float]

/-- Routes as lists of points, which are lists of numbers. -/
def routesShape : Shape (List (List (List Float))) :=
  Shape.listOf (Shape.listOf (Shape.listOf Shape.float))

def answerMembers : List Member :=
  [defaulted "data" routesShape, defaulted "message" Shape.text,
    defaulted "stats" (readRecord ⟨statsMembers, false⟩)]

/-- How numbers are written in the report of a malformed point. -/
def pointLayout : Decimal.Layout := ⟨-4, 15, "e"⟩

/-- The location that a point stands for; numbers after the first two are not looked at. -/
def location (point : List Float) : Except FleetError Location :=
  match point with
  | latitude :: longitude :: _ => .ok ⟨latitude, longitude⟩
  | point => .error (.routeCalculation ("malformed route point [" ++
      ", ".intercalate (point.map (Decimal.shortText pointLayout)) ++ "]"))

/-- The first of the routes in an answer. -/
def firstRoute (routes : List (List (List Float))) (message : String) : Except FleetError Route :=
  match routes with
  | [] => .error (.routeCalculation ("route calculator returned no route: " ++ message))
  | route :: _ => route.mapM location

/-- The route in the text of an answer. -/
def readAnswer (body : String) : Except FleetError Route :=
  match Json.read? body with
  | none => .error (.routeCalculation "invalid response")
  | some d =>
    match readRecord ⟨answerMembers, false⟩ d with
    | .error _ => .error (.routeCalculation "invalid response")
    | .ok found =>
      firstRoute ((found? found "data" routesShape).getD []) (foundText found "message")

/-- The route that a reply gives. -/
def result (c : RouteCalculator) : Reply → Except FleetError Route
  | .unreachable => .error (.routeCalculation ("request to " ++ c.url ++ " failed"))
  | .answered status body =>
    if Http.isSuccess status then readAnswer body
    else .error (.routeCalculation ("route calculator answered " ++ Http.statusText status))

end RouteCalculator

end ScanFleet.Remote
