import ScanFleet.Decimal.Fixed

/-! Locations on the globe.  Two locations are compared by the values of their coordinates, so zero
equals negative zero, and a coordinate that is not a number differs from itself. -/

namespace ScanFleet

open Decimal

/-- A point by its coordinates in degrees. -/
structure Location where
  latitude : Float
  longitude : Float
deriving BEq, Inhabited

/-- A sequence of points that workers visit one by one. -/
abbrev Route := List Location

/-- A coordinate as it is stored and shown, with six decimal places. -/
def coordinateText (x : Float) : String := fixed 6 x

def Location.text (l : Location) : String :=
  coordinateText l.latitude ++ "," ++ coordinateText l.longitude

end ScanFleet
