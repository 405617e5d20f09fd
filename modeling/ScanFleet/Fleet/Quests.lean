import ScanFleet.Fleet.State

/-! Quest scanning of a fleet: the start of quest passes and the nightly rebuild of quest routes. -/

namespace ScanFleet.Fleet

variable {σ : Type}

/-- Starts quest scanning in an area; the result says whether a pass runs. -/
def startQuesting (f : Fleet σ) (services : Services) (area : Int) :
    Except FleetError Bool × Fleet σ :=
  match f.areas.find? area with
  | none => (.error (.areaNotFound area), f)
  | some a =>
    let (started, b) := a.startQuesting services
    (.ok started, { f with areas := f.areas.replace b }.ask (a.startCalls services))

/-- Starts quest scanning in an area when its time has come. -/
def checkQuests (f : Fleet σ) (services : Services) (a : Area) (now : Instant) : Fleet σ :=
  let (fires, b) := a.checkQuests services now
  let f := { f with areas := f.areas.replace b }.ask a.checkCalls
  if fires then (f.startQuesting services a.id).2 else f

/-- The next step of an area's quest pass. -/
def nextQuestStep (f : Fleet σ) (area : Int) : Option Nat × Fleet σ :=
  match f.areas.find? area with
  | none => (none, f)
  | some a =>
    let (step, a) := a.nextQuestStep
    (step, { f with areas := f.areas.replace a })

/-- Whether the local hour of an area is the hour of rebuilding.  It is taken in the centre of the
fence. -/
def isRebuildHour (f : Fleet σ) (services : Services) (now : Instant) (a : Area) : Bool :=
  match a.fence.centre?.bind (services.offsetAt · now) with
  | some offset => now.hour offset == f.settings.rebuildHour
  | none => false

/-- The areas whose quest routes are due to be rebuilt. -/
def rebuildCandidates (f : Fleet σ) (services : Services) (now : Instant) : List Int × Fleet σ :=
  ((f.areas.list.filter (f.isRebuildHour services now)).map (·.id),
    f.ask (f.areas.list.filterMap fun a => a.fence.centre?.map .offset))

/-- A new quest route through the fence of an area. -/
def newQuestRoute (services : Services) (a : Area) : Except FleetError Route :=
  match services.calculate? with
  | none => .error (.routeCalculation "no route calculator configured")
  | some calculate =>
    if a.fence.isEmpty then
      .error (.routeCalculation ("area " ++ toString a.id ++ " has no quest fence"))
    else
      match calculate a.name a.fence.closed with
      | .error e => .error e
      | .ok [] => .error (.routeCalculation ("empty quest route for area " ++ toString a.id))
      | .ok route => .ok route

/-- The question that `newQuestRoute` puts to the calculator. -/
def newQuestRouteCalls (services : Services) (a : Area) : List Call :=
  if services.calculate?.isSome && !a.fence.isEmpty then [.route a.name a.fence.closed] else []

/-- Replaces the quest route of an area by a new one and stores it.  A failure changes nothing. -/
def rebuildQuestRoute [Store σ] (f : Fleet σ) (services : Services) (area : Int) :
    Except FleetError Route × Fleet σ :=
  match f.areas.find? area with
  | none => (.error (.areaNotFound area), f)
  | some a =>
    let f := f.ask (newQuestRouteCalls services a)
    match newQuestRoute services a with
    | .error e => (.error e, f)
    | .ok route =>
      (.ok route,
        { f with areas := f.areas.replace (a.setQuestRoute route) }.persist
          (.questRoute area route))

/-- Rebuilds a quest route and counts it if that succeeds. -/
def rebuildCounting [Store σ] (services : Services) (acc : Nat × Fleet σ) (area : Int) :
    Nat × Fleet σ :=
  match acc.2.rebuildQuestRoute services area with
  | (.ok _, f) => (acc.1 + 1, f)
  | (.error _, f) => (acc.1, f)

/-- Rebuilds the quest routes that are due; the result is the number of new ones. -/
def rebuildDue [Store σ] (f : Fleet σ) (services : Services) (now : Instant) : Nat × Fleet σ :=
  let (areas, f) := f.rebuildCandidates services now
  areas.foldl (rebuildCounting services) (0, f)

end ScanFleet.Fleet
