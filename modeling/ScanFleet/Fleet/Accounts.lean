import ScanFleet.Fleet.State

/-! Operations on the accounts of a fleet.  Each one changes the pool first and then the store. -/

namespace ScanFleet

/-- The trouble that a worker can report with an account. -/
inductive AccountEvent where
  | banned
  | suspended
  | warned
  | invalidCredentials
  | unknownError
deriving DecidableEq, Repr

/-- The accounts of a pool with the counts of each status. -/
structure AccountsOverview where
  stats : PoolStats
  accounts : List Slot
deriving DecidableEq, Repr

namespace Fleet

variable {σ : Type} [Store σ]

/-- Selects an account that `accept` accepts. -/
def allocate (f : Fleet σ) (accept : Account → Bool) (now : Instant) :
    Option Credentials × Fleet σ :=
  match f.pool.allocate accept now with
  | (none, pool) => (none, { f with pool })
  | (some c, pool) => (some c, { f with pool }.persist (.selected c.username now))

def release (f : Fleet σ) (username : String) (now : Instant) : Fleet σ :=
  { f with pool := f.pool.release username now }.persist (.released username now)

def markSuspended (f : Fleet σ) (username : String) (now : Instant) : Fleet σ :=
  { f with pool := f.pool.markSuspended username now }.persist (.suspended username now)

def markBanned (f : Fleet σ) (username : String) (now : Instant) : Fleet σ :=
  { f with pool := f.pool.markBanned username now }.persist (.banned username now)

/-- Takes an account out of use for the cooldown. -/
def markDisabled (f : Fleet σ) (username : String) (now : Instant) : Fleet σ :=
  { f with pool := f.pool.markDisabled username now }.persist (.disabled username now)

def markInvalid (f : Fleet σ) (username : String) : Fleet σ :=
  { f with pool := f.pool.markInvalid username }.persist (.invalid username)

def markWarned (f : Fleet σ) (username : String) (now : Instant) : Fleet σ :=
  { f with pool := f.pool.markWarned username now }.persist
    (.warned username (now + warnDuration))

/-- Sets the level of an account; it is stored only if it differs. -/
def setLevel (f : Fleet σ) (username : String) (level : Int) : Fleet σ :=
  match f.pool.find? username with
  | none => f
  | some a =>
    if a.level = level then f
    else { f with pool := f.pool.setLevel username level }.persist (.level username level)

/-- Raises the level of an account from zero to one; the level is stored in any case. -/
def markTutorialDone (f : Fleet σ) (username : String) : Fleet σ :=
  match f.pool.find? username with
  | none => f
  | some a =>
    let level := Pool.tutorialLevel a.level
    { f with pool := f.pool.setLevel username level }.persist (.level username level)

/-- Whether an account of the pool may be used now. -/
def isValid (f : Fleet σ) (username : String) (now : Instant) : Except FleetError Bool :=
  match f.pool.find? username with
  | some a => .ok (a.isUsable now)
  | none => .error (.accountNotFound username)

/-- Reads the accounts again and merges them into the pool. -/
def reloadAccounts (f : Fleet σ) : Except FleetError ReloadCounts × Fleet σ :=
  match Store.loadAccounts f.store with
  | .error e => (.error e, f)
  | .ok rows =>
    let (counts, pool) := f.pool.merge rows
    (.ok counts, { f with pool })

/-- Adds accounts to the store and reloads the pool; the result is the number of new ones. -/
def importAccounts (f : Fleet σ) (accounts : List NewAccount) : Except FleetError Nat × Fleet σ :=
  match Store.insertAccounts accounts f.store with
  | (.error e, store) => (.error e, { f with store })
  | (.ok count, store) =>
    match { f with store }.reloadAccounts with
    | (.error e, f) => (.error e, f)
    | (.ok _, f) => (.ok count, f)

/-- The accounts with the counts of each status. -/
def overview (f : Fleet σ) (now : Instant) : AccountsOverview := ⟨f.pool.stats now, f.pool.slots⟩

/-- Applies the trouble that a worker reports with an account. -/
def reportAccount (f : Fleet σ) (username : String) (event : AccountEvent) (now : Instant) :
    Except FleetError Unit × Fleet σ :=
  if f.pool.exists? username then
    (.ok (), match event with
      | .banned => f.markBanned username now
      | .suspended => f.markSuspended username now
      | .warned => f.markWarned username now
      | .invalidCredentials => (f.markInvalid username).markDisabled username now
      | .unknownError => f.markDisabled username now)
  else (.error (.accountNotFound username), f)

end Fleet

end ScanFleet
