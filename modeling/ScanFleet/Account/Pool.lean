import ScanFleet.Account.Basic

/-! The pool of accounts.  At the position of each account there is a flag that says whether some
worker has it.  The account released the longest time ago is selected first; one without a time of
release is passed over, because it is selected already. -/

namespace ScanFleet

/-- An account of the pool and whether it is in use. -/
structure Slot where
  account : Account
  inUse : Bool
deriving DecidableEq, Repr, Inhabited

/-- The accounts in the order in which they are listed, and the flags in the same order. -/
structure Pool where
  accounts : List Account
  inUse : List Bool
deriving DecidableEq, Repr, Inhabited

/-- What a reload changed. -/
structure ReloadCounts where
  added : Nat
  updated : Nat
  removed : Nat
deriving DecidableEq, Repr

/-- How many accounts there are of each status. -/
structure PoolStats where
  total : Nat
  inUse : Nat
  banned : Nat
  suspended : Nat
  warned : Nat
  disabled : Nat
  invalid : Nat
deriving DecidableEq, Repr

/-- An account as it is when it was selected. -/
def Account.select (a : Account) (now : Instant) : Account :=
  { a with lastReleased := none, lastSelected := some now }

/-- An account as it is when it was given back. -/
def Account.giveBack (a : Account) (now : Instant) : Account := { a with lastReleased := some now }

namespace Pool

def empty : Pool := ⟨[], []⟩

def usernames (p : Pool) : List String := p.accounts.map (·.username)

/-- The position of the first account of a username. -/
def position (p : Pool) (username : String) : Option Nat :=
  p.accounts.findIdx? (·.username = username)

def exists? (p : Pool) (username : String) : Bool := (p.position username).isSome

def find? (p : Pool) (username : String) : Option Account :=
  (p.position username).bind (p.accounts[·]?)

/-- The flag at a position. -/
def flag (p : Pool) (i : Nat) : Bool := p.inUse.getD i false

def isInUse (p : Pool) (username : String) : Bool := (p.position username).any p.flag

/-- The accounts with their flags. -/
def slots (p : Pool) : List Slot := p.accounts.zipWith Slot.mk p.inUse

/-- Changes the account of a username and not its flag. -/
def modifyAccount (p : Pool) (username : String) (f : Account → Account) : Pool :=
  match p.position username with
  | some i => { p with accounts := p.accounts.modify i f }
  | none => p

/-- Changes the account at a position and puts its flag up or down. -/
def setFlag (p : Pool) (i : Nat) (f : Account → Account) (flag : Bool) : Pool :=
  ⟨p.accounts.modify i f, p.inUse.set i flag⟩

/-- When the account at a position was released, if it can be selected. -/
def candidate? (p : Pool) (accept : Account → Bool) (now : Instant) (a : Account) (i : Nat) :
    Option (Nat × Instant) :=
  if p.flag i || !a.isUsable now || !accept a then none else a.lastReleased.map (i, ·)

/-- The positions of the accounts that can be selected, with the times of their releases. -/
def candidates (p : Pool) (accept : Account → Bool) (now : Instant) : List (Nat × Instant) :=
  p.accounts.zipIdx.filterMap fun (a, i) => p.candidate? accept now a i

/-- The candidate released first, and of several such the first. -/
def oldest : List (Nat × Instant) → Option (Nat × Instant)
  | [] => none
  | c :: rest =>
    match oldest rest with
    | none => some c
    | some best => if c.2 ≤ best.2 then some c else some best

/-- Selects an account for a worker, if one can be selected. -/
def allocate (p : Pool) (accept : Account → Bool) (now : Instant) : Option Credentials × Pool :=
  match oldest (p.candidates accept now) with
  | none => (none, p)
  | some (i, _) => (p.accounts[i]?.map (·.credentials), p.setFlag i (·.select now) true)

/-- Gives an account back. -/
def release (p : Pool) (username : String) (now : Instant) : Pool :=
  match p.position username with
  | some i => p.setFlag i (·.giveBack now) false
  | none => p

def markSuspended (p : Pool) (username : String) (now : Instant) : Pool :=
  p.modifyAccount username fun a => { a with suspended := true, lastSuspended := some now }

def markBanned (p : Pool) (username : String) (now : Instant) : Pool :=
  p.modifyAccount username fun a => { a with banned := true, lastBanned := some now }

def markDisabled (p : Pool) (username : String) (now : Instant) : Pool :=
  p.modifyAccount username fun a => { a with disabled := true, lastDisabled := some now }

def markInvalid (p : Pool) (username : String) : Pool :=
  p.modifyAccount username fun a => { a with invalid := true }

def markWarned (p : Pool) (username : String) (now : Instant) : Pool :=
  p.modifyAccount username fun a =>
    { a with warned := true, warnExpiration := some (now + warnDuration) }

def setLevel (p : Pool) (username : String) (level : Int) : Pool :=
  p.modifyAccount username ({ · with level })

/-- The level of an account whose tutorial is done: one at least. -/
def tutorialLevel (level : Int) : Int := if level = 0 then 1 else level

/-- The record of a username in a list of rows; the last one counts. -/
def row? (rows : List Account) (username : String) : Option Account :=
  rows.reverse.find? (·.username = username)

/-- The usernames of rows that a pool lacks, each once, in ascending order. -/
def newUsernames (p : Pool) (rows : List Account) : List String :=
  (((rows.map (·.username)).filter (! p.exists? ·)).mergeSort).eraseDups

/-- Merges rows into the pool.  Known accounts keep their place and flag, those without a row are
dropped, and new ones follow in the order of their usernames. -/
def merge (p : Pool) (rows : List Account) : ReloadCounts × Pool :=
  let kept := p.slots.filterMap fun s =>
    (row? rows s.account.username).map fun a => (s, { s with account := a })
  let added := (p.newUsernames rows).filterMap (row? rows)
  (⟨added.length, (kept.filter fun (old, new) => old.account ≠ new.account).length,
      p.accounts.length - kept.length⟩,
    ⟨kept.map (·.2.account) ++ added, kept.map (·.2.inUse) ++ added.map fun _ => false⟩)

def stats (p : Pool) (now : Instant) : PoolStats where
  total := p.accounts.length
  inUse := p.inUse.countP id
  banned := p.accounts.countP (·.banned)
  suspended := p.accounts.countP (·.suspended)
  warned := p.accounts.countP (·.warnActive now)
  disabled := p.accounts.countP (·.disabledRecently now)
  invalid := p.accounts.countP (·.invalid)

end Pool

end ScanFleet
