import ScanFleet.Data.Value
import ScanFleet.Fleet.Reload
import ScanFleet.Fleet.Status
import ScanFleet.Fleet.Workers
import ScanFleet.Time.Calendar

/-! The structured values by which the fleet's things are shown.  Passwords are never shown, except
to the worker that is given the account. -/

namespace ScanFleet

open Data

def Instant.data (t : Instant) : Data := .text (Instant.text t)

/-- A time that may be absent. -/
def timeData (t : Option Instant) : Data := .ofOption Instant.data t

def textData (s : Option String) : Data := .ofOption .text s

def idData (id : Option Int) : Data := .ofOption .int id

/-- The members of an account that are shown. -/
def Account.members (a : Account) : List (String × Data) :=
  [("username", .text a.username), ("level", .int a.level), ("warn", .bool a.warned),
    ("warn_expiration", timeData a.warnExpiration), ("suspended", .bool a.suspended),
    ("banned", .bool a.banned), ("invalid", .bool a.invalid), ("disabled", .bool a.disabled),
    ("last_selected", timeData a.lastSelected), ("last_released", timeData a.lastReleased),
    ("last_disabled", timeData a.lastDisabled), ("last_banned", timeData a.lastBanned),
    ("last_suspended", timeData a.lastSuspended)]

def Account.data (a : Account) : Data := .record a.members

def Slot.data (s : Slot) : Data := .record (s.account.members ++ [("in_use", .bool s.inUse)])

def Credentials.data (c : Credentials) : Data :=
  .record [("username", .text c.username), ("password", .text c.password)]

def PoolStats.data (s : PoolStats) : Data :=
  .record [("total", .ofNat s.total), ("in_use", .ofNat s.inUse), ("banned", .ofNat s.banned),
    ("suspended", .ofNat s.suspended), ("warned", .ofNat s.warned),
    ("disabled", .ofNat s.disabled), ("invalid", .ofNat s.invalid)]

def AccountsOverview.data (o : AccountsOverview) : Data :=
  .record [("stats", o.stats.data), ("accounts", .list (o.accounts.map Slot.data))]

def ReloadCounts.data (c : ReloadCounts) : Data :=
  .record [("added", .ofNat c.added), ("updated", .ofNat c.updated), ("removed", .ofNat c.removed)]

def AreaChanges.data (c : AreaChanges) : Data :=
  .record [("added", .list (c.added.map .int)), ("changed", .list (c.changed.map .int)),
    ("removed", .list (c.removed.map .int))]

def Hours.data (h : Hours) : Data := .list (h.list.map .ofNat)

/-- The members of an area that are shown. -/
def Area.members (a : Area) : List (String × Data) :=
  [("id", .int a.id), ("name", .text a.name), ("target_workers", .ofNat a.target),
    ("route_len", .ofNat a.route.length), ("quest_route_len", .ofNat a.questRoute.length),
    ("quest_hours", a.hours.data), ("has_quest_fence", .bool (!a.fence.isEmpty)),
    ("mode", .text a.mode.text), ("last_recalculated", timeData a.partitioned)]

def Area.data (a : Area) : Data := .record a.members

def AreaStatus.data (s : AreaStatus) : Data :=
  .record (s.area.members ++ [("bound_workers", .ofNat s.bound), ("live_workers", .ofNat s.live)])

/-- Counts by kind of message. -/
def Usage.data (u : Usage) : Data :=
  .record (u.counts.map fun (kind, count) => (toString kind, .ofNat count))

/-- The first step, the last step and the next step of a session, all zero without a walk. -/
def Session.bounds (s : Session) : Nat × Nat × Nat :=
  match s.walk with
  | some w => (w.part.start, w.part.last, w.step)
  | none => (0, 0, 0)

def Session.data (s : Session) : Data :=
  let (start, last, step) := s.bounds
  .record [("uuid", .text s.id), ("area_id", idData s.area), ("username", textData s.username),
    ("start_step", .ofNat start), ("end_step", .ofNat last), ("step", .ofNat step),
    ("host", textData s.host), ("last_seen", Instant.data s.lastSeen), ("usage", s.usage.data)]

def Device.data (d : Device) : Data :=
  .record [("uuid", .text d.worker), ("area_id", idData d.area),
    ("account_username", textData d.username), ("last_host", textData d.lastHost),
    ("last_seen", Instant.data d.lastSeen)]

/-- The members of a job that tell where to scan. -/
def Location.members (l : Location) : List (String × Data) :=
  [("lat", .ofFloat l.latitude), ("lon", .ofFloat l.longitude)]

/-- The accounts by level that a job is for. -/
def levelMembers (minLevel maxLevel : Int) : List (String × Data) :=
  [("min_level", .int minLevel), ("max_level", .int maxLevel)]

def Job.data : Job → Data
  | .scanPokemon place lo hi =>
    .record (("action", .text "scan_pokemon") :: place.members ++ levelMembers lo hi)
  | .scanQuest place lo hi =>
    .record (("action", .text "scan_quest") :: place.members ++
      ("quest_type", .text "normal") :: levelMembers lo hi)
  | .switchAccount lo hi => .record (("action", .text "switch_account") :: levelMembers lo hi)

end ScanFleet
