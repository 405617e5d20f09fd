import ScanFleet.Store.Basic

/-! A store in memory.  Accounts are kept in the order of their usernames and areas in the order of
their ids.  While it is read-only, every change fails and does nothing. -/

namespace ScanFleet

/-- The three tables of a store. -/
structure Tables where
  accounts : List Account
  areas : List AreaRecord
  devices : List Device
  readOnly : Bool
deriving DecidableEq, Repr, Inhabited

namespace Tables

def empty : Tables := ⟨[], [], [], false⟩

/-- A list of accounts with one put in its place; one of the same username gives way. -/
def insertAccount (a : Account) : List Account → List Account
  | [] => [a]
  | b :: rest =>
    if a.username < b.username then a :: b :: rest
    else if a.username = b.username then a :: rest
    else b :: insertAccount a rest

/-- A list of areas with one put in its place; one of the same id gives way. -/
def insertRecord (r : AreaRecord) : List AreaRecord → List AreaRecord
  | [] => [r]
  | s :: rest =>
    if r.id < s.id then r :: s :: rest
    else if r.id = s.id then r :: rest
    else s :: insertRecord r rest

def account? (t : Tables) (username : String) : Option Account :=
  t.accounts.find? (·.username = username)

def area? (t : Tables) (id : Int) : Option AreaRecord := t.areas.find? (·.id = id)

def device? (t : Tables) (worker : String) : Option Device :=
  t.devices.find? (·.worker = worker)

def putAccount (t : Tables) (a : Account) : Tables :=
  { t with accounts := insertAccount a t.accounts }

def putArea (t : Tables) (r : AreaRecord) : Tables := { t with areas := insertRecord r t.areas }

def putDevice (t : Tables) (d : Device) : Tables :=
  { t with devices := t.devices.filter (·.worker ≠ d.worker) ++ [d] }

def removeAccount (t : Tables) (username : String) : Tables :=
  { t with accounts := t.accounts.filter (·.username ≠ username) }

def removeArea (t : Tables) (id : Int) : Tables :=
  { t with areas := t.areas.filter (·.id ≠ id) }

/-- The failure of every change of a read-only store. -/
def refusal : FleetError := .store "store is read-only"

/-- Changes the account of a username; an unknown one is passed over. -/
def changeAccount (t : Tables) (username : String) (f : Account → Account) : Tables :=
  { t with accounts := t.accounts.map fun a => if a.username = username then f a else a }

/-- The tables after a change of one row. -/
def apply (t : Tables) : Write → Tables
  | .selected username now =>
    t.changeAccount username ({ · with lastSelected := some now, lastReleased := none })
  | .released username now => t.changeAccount username ({ · with lastReleased := some now })
  | .suspended username now =>
    t.changeAccount username ({ · with suspended := true, lastSuspended := some now })
  | .banned username now =>
    t.changeAccount username ({ · with banned := true, lastBanned := some now })
  | .disabled username now =>
    t.changeAccount username ({ · with disabled := true, lastDisabled := some now })
  | .invalid username => t.changeAccount username ({ · with invalid := true })
  | .warned username expiration =>
    t.changeAccount username ({ · with warned := true, warnExpiration := some expiration })
  | .level username level => t.changeAccount username ({ · with level })
  | .device d => t.putDevice d
  | .deviceAccount worker username =>
    { t with devices := t.devices.map fun d =>
        if d.worker = worker then { d with username } else d }
  | .questRoute area route =>
    { t with areas := t.areas.map fun r =>
        if r.id = area then { r with questRoute := some (Route.text route) } else r }

def write (w : Write) (t : Tables) : Except FleetError Unit × Tables :=
  if t.readOnly then (.error refusal, t) else (.ok (), t.apply w)

/-- Adds one account unless its username is taken. -/
def addAccount (acc : Nat × Tables) (n : NewAccount) : Nat × Tables :=
  let (count, t) := acc
  if (t.account? n.username).isSome then (count, t) else (count + 1, t.putAccount (.fresh n))

def insertAccounts (ns : List NewAccount) (t : Tables) : Except FleetError Nat × Tables :=
  if t.readOnly then (.error refusal, t)
  else
    let (count, t) := ns.foldl addAccount (0, t)
    (.ok count, t)

/-- The account with a time of release, which is `now` if it had none. -/
def stampReleased (now : Instant) (a : Account) : Account :=
  if a.lastReleased.isNone then { a with lastReleased := some now } else a

def releaseAll (now : Instant) (t : Tables) : Except FleetError Nat × Tables :=
  if t.readOnly then (.error refusal, t)
  else
    (.ok (t.accounts.countP (·.lastReleased.isNone)),
      { t with accounts := t.accounts.map (stampReleased now) })

instance : Store Tables where
  loadAccounts t := .ok t.accounts
  insertAccounts := insertAccounts
  releaseAll := releaseAll
  loadAreas t := .ok t.areas
  findDevice worker t := .ok (t.device? worker)
  write := write

end Tables

end ScanFleet
