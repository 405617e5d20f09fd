import ScanFleet.Area.Definition
import ScanFleet.Cache.Scan
import ScanFleet.Quest.Schedule
import ScanFleet.Service
import ScanFleet.Session.Registry

/-! Areas.  An area has a route for its workers, a quest route that is walked once in a quest pass,
and the caches of what was scanned in it. -/

namespace ScanFleet

/-- The state of an area. -/
structure Area where
  id : Int
  name : String
  /-- How many live workers the area wants. -/
  target : Nat
  route : Route
  questRoute : Route
  fence : Fence
  schedule : Schedule
  /-- The step of the quest route that comes next, while a quest pass runs. -/
  pass : Option Nat
  /-- When the route was last cut into parts. -/
  partitioned : Option Instant
  /-- The caches, once something used them. -/
  caches : Option ScanCaches
deriving Inhabited

namespace Area

def ofDefinition (d : Definition) : Area where
  id := d.id
  name := d.name
  target := d.target
  route := d.route
  questRoute := d.questRoute
  fence := d.fence
  schedule := .new d.hours
  pass := none
  partitioned := none
  caches := none

def mode (a : Area) : Mode := if a.pass.isSome then .quest else .pokemon

def hours (a : Area) : Hours := a.schedule.hours

/-- The route of a mode. -/
def routeOf (a : Area) : Mode → Route
  | .pokemon => a.route
  | .quest => a.questRoute

/-- The location of a step of a route. -/
def locationAt (a : Area) (mode : Mode) (step : Nat) : Except FleetError Location :=
  match (a.routeOf mode)[step]? with
  | some l => .ok l
  | none => .error (.stepOutOfRange a.id mode.text step (a.routeOf mode).length)

/-- Cuts the route anew for the workers `ids`, which are those bound to the area in order.  The
result is the number of live ones; with none of them nothing changes. -/
def recalculate (a : Area) (ids : List String) (now : Instant) (unseen : Span) (s : Sessions) :
    Nat × Area × Sessions :=
  let (live, s) := s.partitionRoute ids a.route.length now unseen
  (live, if live = 0 ∨ a.route.isEmpty then a else { a with partitioned := some now }, s)

/-- Where local time is taken: at the first step of the quest route, or in the centre of the
fence. -/
def anchor? (a : Area) : Option Location := a.questRoute.head? <|> a.fence.centre?

/-- The place whose clock decides whether quest scanning starts; none when no hours are set. -/
def questProbe? (a : Area) : Option Location := if a.hours.isEmpty then none else a.anchor?

/-- Whether quest scanning starts now. -/
def checkQuests (a : Area) (services : Services) (now : Instant) : Bool × Area :=
  match a.questProbe?.bind (services.offsetAt · now) with
  | none => (false, a)
  | some offset =>
    let (fires, schedule) := a.schedule.check now offset
    (fires, { a with schedule })

/-- The collaborators' answers that `checkQuests` asks for. -/
def checkCalls (a : Area) : List Call := a.questProbe?.toList.map .offset

def withCaches (a : Area) : ScanCaches := a.caches.getD .empty

/-- The quest route that a start of quest scanning finds or makes.  It is calculated when there is
none, and stays empty when that is not possible. -/
def startRoute (a : Area) (services : Services) : Route :=
  if a.questRoute.isEmpty && !a.fence.isEmpty then
    match services.calculate? with
    | none => []
    | some calculate => (calculate a.name a.fence.closed).toOption.getD []
  else a.questRoute

/-- Starts a quest pass and forgets the scans of pokestops.  The result says whether there is a
quest route; without one no pass starts. -/
def startQuesting (a : Area) (services : Services) : Bool × Area :=
  let questRoute := a.startRoute services
  let caches := some a.withCaches.clearPokestops
  if questRoute.isEmpty then (false, { a with questRoute, caches })
  else (true, { a with questRoute, caches, pass := some 0 })

/-- The collaborators' answers that `startQuesting` asks for.  The notifier is told first. -/
def startCalls (a : Area) (services : Services) : List Call :=
  if a.fence.isEmpty then []
  else
    (if services.clearQuests?.isSome then [.notify a.fence.points] else []) ++
      if a.questRoute.isEmpty && services.calculate?.isSome then [.route a.name a.fence.closed]
      else []

/-- The next step of the running quest pass, which ends when every step was handed out. -/
def nextQuestStep (a : Area) : Option Nat × Area :=
  match a.pass with
  | none => (none, a)
  | some step =>
    if a.questRoute.length ≤ step then (none, { a with pass := none })
    else (some step, { a with pass := some (step + 1) })

/-- Replaces the quest route; a quest pass whose next step is not on it ends. -/
def setQuestRoute (a : Area) (questRoute : Route) : Area :=
  { a with questRoute, pass := a.pass.filter (· < questRoute.length) }

/-- Takes over the parts of a definition that differ.  The result says whether the route, the number
of workers or the fence was among them. -/
def applyDefinition (a : Area) (d : Definition) : Bool × Area :=
  let changed := a.route != d.route || a.target != d.target || a.fence != d.fence
  let area := { a with
    name := d.name
    fence := if a.fence != d.fence then d.fence else a.fence
    route := if a.route != d.route then d.route else a.route
    target := d.target
    schedule := a.schedule.setHours d.hours }
  (changed, if a.questRoute != d.questRoute then area.setQuestRoute d.questRoute else area)

/-- Uses the caches, which are created when nothing used them before. -/
def useCaches {α : Type} (a : Area) (f : ScanCaches → α × ScanCaches) : α × Area :=
  let (result, caches) := f a.withCaches
  (result, { a with caches := some caches })

/-- Drops what has expired in the caches; the result is the number of entries dropped. -/
def purgeCaches (a : Area) (now : Instant) : Nat × Area :=
  match a.caches with
  | none => (0, a)
  | some caches =>
    let (dropped, caches) := caches.purge now
    (dropped, { a with caches := some caches })

end Area

end ScanFleet
