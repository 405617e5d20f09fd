/-! Counts of the messages that a worker reports, and the ceilings on them.  A kind of message
without a ceiling, or with the ceiling zero, is unlimited. -/

namespace ScanFleet

/-- A kind of message. -/
abbrev MessageType := Nat

/-- Ceilings by kind of message; a kind occurs once. -/
structure UsageLimits where
  ceilings : List (MessageType × Nat)
deriving DecidableEq, Repr, Inhabited

/-- How often each kind of message was reported. -/
structure Usage where
  counts : List (MessageType × Nat)
deriving DecidableEq, Repr, Inhabited

/-- A list of pairs with the value of a key set. -/
def setCount (key value : Nat) : List (Nat × Nat) → List (Nat × Nat)
  | [] => [(key, value)]
  | (k, v) :: rest => if k = key then (key, value) :: rest else (k, v) :: setCount key value rest

def UsageLimits.none : UsageLimits := ⟨[]⟩

/-- The ceilings of a list of pairs, the last one of a kind counting. -/
def UsageLimits.ofList (l : List (MessageType × Nat)) : UsageLimits :=
  ⟨l.foldl (fun acc (kind, ceiling) => setCount kind ceiling acc) []⟩

/-- The ceiling of a kind of message, if it is limited. -/
def UsageLimits.ceiling? (l : UsageLimits) (kind : MessageType) : Option Nat :=
  (l.ceilings.lookup kind).filter (0 < ·)

/-- Whether nothing is limited. -/
def UsageLimits.isUnlimited (l : UsageLimits) : Bool := l.ceilings.all (·.2 == 0)

def Usage.zero : Usage := ⟨[]⟩

def Usage.count (u : Usage) (kind : MessageType) : Nat := (u.counts.lookup kind).getD 0

/-- Counts one more message. -/
def Usage.increment (u : Usage) (kind : MessageType) : Usage :=
  ⟨setCount kind (u.count kind + 1) u.counts⟩

/-- Counts a list of messages. -/
def Usage.record (u : Usage) (kinds : List MessageType) : Usage := kinds.foldl Usage.increment u

/-- Whether some kind of message was reported more often than its ceiling allows. -/
def UsageLimits.exceededBy (l : UsageLimits) (u : Usage) : Bool :=
  l.ceilings.any fun (kind, ceiling) => 0 < ceiling && ceiling < u.count kind

end ScanFleet
