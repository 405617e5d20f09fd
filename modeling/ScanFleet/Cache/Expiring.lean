import ScanFleet.Time.Instant

/-! Tables whose entries expire.  An entry lives for a fixed span from its insertion; reading it
does not extend its life.  A look-up drops the entry it finds expired, and `purge` drops all of
them. -/

namespace ScanFleet

/-- A stored value and the first instant at which it is no longer there. -/
structure Entry (κ ν : Type) where
  key : κ
  value : ν
  expires : Instant
deriving DecidableEq, Repr

/-- A table of entries, at most one for a key, in no particular order. -/
structure Expiring (κ ν : Type) where
  ttl : Span
  entries : List (Entry κ ν)
deriving DecidableEq, Repr

namespace Expiring

variable {κ ν : Type} [DecidableEq κ]

def empty (ttl : Span) : Expiring κ ν := ⟨ttl, []⟩

/-- The stored entry of a key, expired or not. -/
def find? (c : Expiring κ ν) (key : κ) : Option (Entry κ ν) :=
  c.entries.find? (·.key = key)

def erase (c : Expiring κ ν) (key : κ) : Expiring κ ν :=
  { c with entries := c.entries.filter (·.key ≠ key) }

def insert (c : Expiring κ ν) (key : κ) (value : ν) (now : Instant) : Expiring κ ν :=
  { c with entries := ⟨key, value, now + c.ttl⟩ :: (c.erase key).entries }

/-- The live value of a key; an expired entry is dropped. -/
def get (c : Expiring κ ν) (key : κ) (now : Instant) : Option ν × Expiring κ ν :=
  match c.find? key with
  | none => (none, c)
  | some e => if now < e.expires then (some e.value, c) else (none, c.erase key)

def contains (c : Expiring κ ν) (key : κ) (now : Instant) : Bool × Expiring κ ν :=
  let (value, c) := c.get key now
  (value.isSome, c)

/-- The live value of a key, or `value`, which is then stored. -/
def getOrInsert (c : Expiring κ ν) (key : κ) (value : ν) (now : Instant) : ν × Expiring κ ν :=
  match c.find? key with
  | some e => if now < e.expires then (e.value, c) else (value, c.insert key value now)
  | none => (value, c.insert key value now)

/-- Changes the stored value of a key and not its life. -/
def modify (c : Expiring κ ν) (key : κ) (f : ν → ν) : Expiring κ ν :=
  { c with entries := c.entries.map fun e =>
      if e.key = key then { e with value := f e.value } else e }

omit [DecidableEq κ] in
/-- Drops the expired entries. -/
def purge (c : Expiring κ ν) (now : Instant) : Expiring κ ν :=
  { c with entries := c.entries.filter (now < ·.expires) }

omit [DecidableEq κ] in
/-- The number of stored entries, expired ones included. -/
def size (c : Expiring κ ν) : Nat := c.entries.length

omit [DecidableEq κ] in
/-- How many entries `purge` drops. -/
def purgeCount (c : Expiring κ ν) (now : Instant) : Nat := c.size - (c.purge now).size

omit [DecidableEq κ] in
def clear (c : Expiring κ ν) : Expiring κ ν := { c with entries := [] }

end Expiring

end ScanFleet
