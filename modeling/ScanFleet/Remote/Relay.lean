import ScanFleet.Config.Basic
import ScanFleet.Remote.Exchange

/-! The relay of raw reports: what workers report is posted unchanged to every target. -/

namespace ScanFleet.Remote

/-- The targets, and the name under which reports are sent on. -/
structure Relay where
  targets : List RelayTarget
  sender : String
deriving DecidableEq, Repr

/-- The name under which the controller sends reports on. -/
def controllerName : String := "fleet-controller"

/-- The posts by which a report is sent on. -/
def Relay.posts (r : Relay) (body : String) : List Post :=
  r.targets.map fun t =>
    ⟨t.url, jsonContent :: ("x-sender", r.sender) :: t.token.toList.map bearer, body⟩

def Relay.ofConfig (c : Config) : Relay := ⟨c.relayTargets, controllerName⟩

end ScanFleet.Remote
