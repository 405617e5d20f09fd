import ScanFleet.Geo.ZoneMap
import ScanFleet.Remote.QuestNotifier
import ScanFleet.Remote.Relay
import ScanFleet.Remote.RouteCalculator

/-! The services that a configuration names, as the fleet asks them. -/

namespace ScanFleet

open Remote

def Config.routeCalculator? (c : Config) : Option RouteCalculator :=
  c.calculator.map fun k => ⟨k.url, k.token⟩

def Config.questNotifier? (c : Config) : Option QuestNotifier :=
  c.processors.endpoint.map (⟨·, c.processors.secret⟩)

/-- The services of a configuration.  `map` tells the time zones, and `send` says what comes back
for a post. -/
def Config.services (c : Config) (map : ZoneMap) (send : Post → Reply) : Services where
  calculate? := c.routeCalculator?.map fun r name outline => r.result (send (r.post name outline))
  clearQuests? := c.questNotifier?.map fun n fence => n.result (send (n.post fence))
  offsetAt := map.offsetAt

end ScanFleet
