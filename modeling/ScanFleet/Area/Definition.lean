import ScanFleet.Error
import ScanFleet.Geo.Fence
import ScanFleet.Geo.Route
import ScanFleet.Quest.Hours

/-! Definitions of areas, and the stored rows they are read from.  At startup a row with a malformed
column is refused; at a reload such a column is taken as empty, so that one bad row does not stop
the other areas. -/

namespace ScanFleet

/-- A stored area.  Routes, fence and hours are texts. -/
structure AreaRecord where
  id : Int
  name : String
  pokemonWorkers : Int
  pokemonRoute : Option String
  fortWorkers : Int
  fortRoute : Option String
  questWorkers : Int
  questHours : Option String
  questRoute : Option String
  fence : Option String
  enableQuests : Bool
deriving DecidableEq, Repr, Inhabited

/-- What a row says about an area. -/
structure Definition where
  id : Int
  name : String
  target : Nat
  route : Route
  questRoute : Route
  fence : Fence
  hours : Hours
deriving BEq, Inhabited

/-- The route in a column; a column without a text is the empty route. -/
def readColumn (column : Option String) : Except RouteError Route := Route.read (column.getD "")

/-- The hours of a row, none unless quests are enabled. -/
def AreaRecord.hours (r : AreaRecord) : Hours :=
  if r.enableQuests then (r.questHours.map Hours.read).getD .empty else .empty

/-- The wanted number of workers; a negative one is none. -/
def AreaRecord.target (r : AreaRecord) : Nat := r.pokemonWorkers.toNat

/-- The route in a column of a row that must be well formed. -/
def strictColumn (id : Int) (name : String) (column : Option String) : Except FleetError Route :=
  (readColumn column).mapError fun e => .malformedRoute id name e.message

/-- The route in a column, empty when it is malformed. -/
def lenientColumn (column : Option String) : Route := (readColumn column).toOption.getD []

/-- The definition in a row whose columns must be well formed and whose pokemon route must have a
step.  The columns are read in the order pokemon route, quest route, fence. -/
def Definition.strict (r : AreaRecord) : Except FleetError Definition :=
  match strictColumn r.id "pokemon route" r.pokemonRoute with
  | .error e => .error e
  | .ok [] => .error (.malformedRoute r.id "pokemon route" "route is empty")
  | .ok route =>
    match strictColumn r.id "quest route" r.questRoute with
    | .error e => .error e
    | .ok questRoute =>
      match strictColumn r.id "geofence" r.fence with
      | .error e => .error e
      | .ok fence =>
        .ok { id := r.id, name := r.name, target := r.target, route, questRoute, fence := ⟨fence⟩,
              hours := r.hours }

/-- The definition in a row, malformed columns taken as empty. -/
def Definition.lenient (r : AreaRecord) : Definition where
  id := r.id
  name := r.name
  target := r.target
  route := lenientColumn r.pokemonRoute
  questRoute := lenientColumn r.questRoute
  fence := ⟨lenientColumn r.fence⟩
  hours := r.hours

end ScanFleet
