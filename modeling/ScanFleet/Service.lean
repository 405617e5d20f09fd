import ScanFleet.Error
import ScanFleet.Geo.Fence
import ScanFleet.Geo.Location
import ScanFleet.Time.Instant

/-! The services that the fleet asks: a calculator of routes through a fence, a notifier that makes
others forget the quests inside a fence, and the clocks of places. -/

namespace ScanFleet

/-- The answers of the services.  The calculator and the notifier may be absent. -/
structure Services where
  /-- A route for the area of that name through a closed outline. -/
  calculate? : Option (String → List Location → Except FleetError Route)
  clearQuests? : Option (Fence → Except FleetError Unit)
  /-- How many seconds the clock of a place is ahead of UTC, where that is known. -/
  offsetAt : Location → Instant → Option Int

/-- No calculator, no notifier, and UTC everywhere. -/
def Services.none : Services := ⟨.none, .none, fun _ _ => some 0⟩

/-- A question put to a service. -/
inductive Call where
  | route (name : String) (outline : List Location)
  | notify (outline : List Location)
  | offset (place : Location)

end ScanFleet
