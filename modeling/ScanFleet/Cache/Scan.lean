import ScanFleet.Cache.Expiring

/-! What an area remembers about scanned things: the quests read at each pokestop, for six hours,
and the encounters already reported, for one. -/

namespace ScanFleet

/-- The last scan of one quest layer of a pokestop. -/
structure LayerScan where
  time : Option Instant
  worker : Option String
  step : Nat
deriving DecidableEq, Repr

def LayerScan.never : LayerScan := ⟨none, none, 0⟩

/-- The quest history of a pokestop.  A pokestop has two quests, one of them for augmented
reality. -/
structure PokestopScan where
  augmented : LayerScan
  plain : LayerScan
  hasAugmentedReward : Bool
deriving DecidableEq, Repr

def PokestopScan.never : PokestopScan := ⟨.never, .never, false⟩

/-- One of the two quest layers of a pokestop. -/
inductive QuestLayer where
  | augmented
  | plain
deriving DecidableEq, Repr

/-- The history after a scan of a layer. -/
def PokestopScan.setLayer (p : PokestopScan) (layer : QuestLayer) (scan : LayerScan) :
    PokestopScan :=
  match layer with
  | .augmented => { p with augmented := scan }
  | .plain => { p with plain := scan }

/-- What tells two encounters apart. -/
structure EncounterKey where
  encounter : Nat
  pokemon : Int
  boosted : Bool
deriving DecidableEq, Repr

/-- The two tables of an area. -/
structure ScanCaches where
  pokestops : Expiring String PokestopScan
  encounters : Expiring EncounterKey Unit
deriving DecidableEq, Repr

def pokestopLife : Span := .ofHours 6

def encounterLife : Span := .ofMinutes 60

namespace ScanCaches

def empty : ScanCaches := ⟨.empty pokestopLife, .empty encounterLife⟩

/-- The history of a pokestop, which is created when there is none. -/
def pokestop (c : ScanCaches) (stop : String) (now : Instant) : PokestopScan × ScanCaches :=
  let (scan, pokestops) := c.pokestops.getOrInsert stop .never now
  (scan, { c with pokestops })

/-- Changes the history of a pokestop in place. -/
def updatePokestop (c : ScanCaches) (stop : String) (f : PokestopScan → PokestopScan) :
    ScanCaches :=
  { c with pokestops := c.pokestops.modify stop f }

def clearPokestops (c : ScanCaches) : ScanCaches := { c with pokestops := c.pokestops.clear }

def encounterSeen (c : ScanCaches) (key : EncounterKey) (now : Instant) : Bool × ScanCaches :=
  let (seen, encounters) := c.encounters.contains key now
  (seen, { c with encounters })

/-- Records an encounter unless it is recorded already; the result says whether it was new. -/
def recordEncounter (c : ScanCaches) (key : EncounterKey) (now : Instant) : Bool × ScanCaches :=
  let (seen, c) := c.encounterSeen key now
  if seen then (false, c)
  else (true, { c with encounters := c.encounters.insert key () now })

/-- Drops what has expired; the result is the number of entries dropped. -/
def purge (c : ScanCaches) (now : Instant) : Nat × ScanCaches :=
  (c.pokestops.purgeCount now + c.encounters.purgeCount now,
    ⟨c.pokestops.purge now, c.encounters.purge now⟩)

end ScanCaches

end ScanFleet
