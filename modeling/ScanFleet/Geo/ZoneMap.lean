import ScanFleet.Geo.Location
import ScanFleet.Time.Zone

/-! The time zones of places.  Where the zones lie and what their clocks show is known elsewhere, so
whoever asks for the time of a place takes a map of the zones as a parameter.  A sketch of such a
map follows, to try the rest on: seven cities in the open sea, with the clocks of recent years. -/

namespace ScanFleet

open Decimal

/-- A map of the time zones. -/
structure ZoneMap where
  /-- The name of the zone of a place, blank where there is none. -/
  nameAt : Location → String
  /-- How many seconds the clock of a zone, found by its name, is ahead of UTC. -/
  clock? : String → Option (Instant → Int)

/-- How many seconds the clock of a place is ahead of UTC, if its zone is known by name. -/
def ZoneMap.offsetAt (map : ZoneMap) (l : Location) (now : Instant) : Option Int :=
  let name := map.nameAt l
  if name.isEmpty then none else (map.clock? name).map (· now)

/-! ### A sketch -/

/-- The places within half a degree of a point. -/
structure Surroundings where
  latitude : Float
  longitude : Float
  zone : Zone

def Surroundings.contains (s : Surroundings) (l : Location) : Bool :=
  s.latitude - 0.5 ≤ l.latitude && l.latitude ≤ s.latitude + 0.5 &&
    s.longitude - 0.5 ≤ l.longitude && l.longitude ≤ s.longitude + 0.5

def cities : List Surroundings :=
  [⟨47.27, 11.40, .vienna⟩, ⟨40.71, -74.0, .newYork⟩, ⟨35.68, 139.69, .tokyo⟩,
    ⟨28.61, 77.2, .kolkata⟩, ⟨27.7, 85.32, .kathmandu⟩, ⟨-33.87, 151.2, .sydney⟩,
    ⟨64.15, -21.94, .reykjavik⟩]

/-- The longitude in units of fifteen degrees, rounded to the nearest integer. -/
def hoursEast (longitude : Float) : Int :=
  match Value.ofFloat longitude with
  | .finite negative m q =>
    let h := roundHalfEven (m * twoTo q.toNat) (15 * twoTo (-q).toNat)
    if negative then -(h : Int) else h
  | _ => 0

/-- Whether a location is on the globe. -/
def Location.isOnGlobe (l : Location) : Bool :=
  -90 ≤ l.latitude && l.latitude ≤ 90 && -180 ≤ l.longitude && l.longitude ≤ 180

/-- The zone of a place on the sketch. -/
def zoneAt (l : Location) : Option Zone :=
  if l.isOnGlobe then
    some (match cities.find? (·.contains l) with
      | some city => city.zone
      | none => .atSea (hoursEast l.longitude))
  else none

/-- All zones on the sketch; at sea they reach from twelve hours behind to twelve ahead. -/
def zones : List Zone :=
  cities.map (·.zone) ++ (List.range 25).map fun n => .atSea (n - 12)

def ZoneMap.sketch : ZoneMap where
  nameAt l := ((zoneAt l).map (·.name)).getD ""
  clock? name := (zones.find? (·.name = name)).map Zone.offset

/-- The clock of a place on the sketch. -/
def offsetAt : Location → Instant → Option Int := ZoneMap.sketch.offsetAt

end ScanFleet
