import ScanFleet.Fleet.State

/-! What a fleet shows of its areas. -/

namespace ScanFleet

/-- An area with the numbers of its workers. -/
structure AreaStatus where
  area : Area
  bound : Nat
  live : Nat

namespace Fleet

variable {σ : Type}

def areaStatus (f : Fleet σ) (now : Instant) (a : Area) : AreaStatus :=
  ⟨a, (f.sessions.inArea a.id).length, (f.sessions.liveIn a.id now f.settings.unseen).length⟩

def areaStatuses (f : Fleet σ) (now : Instant) : List AreaStatus :=
  f.areas.list.map (f.areaStatus now)

end Fleet

end ScanFleet
