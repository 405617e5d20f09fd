import ScanFleet.Time.Instant

/-! Accounts that workers play with, and when one may be used. -/

namespace ScanFleet

/-- An account as it is stored. -/
structure Account where
  username : String
  password : String
  level : Int
  warned : Bool
  warnExpiration : Option Instant
  suspended : Bool
  banned : Bool
  invalid : Bool
  disabled : Bool
  lastSelected : Option Instant
  /-- Absent while the account is selected, and before its first release. -/
  lastReleased : Option Instant
  lastDisabled : Option Instant
  lastBanned : Option Instant
  lastSuspended : Option Instant
deriving DecidableEq, Repr, Inhabited

/-- How long a disabled account is not used. -/
def disableCooldown : Span := .ofHours 24

/-- How long a warned account is not used. -/
def warnDuration : Span := .ofDays 7

/-- An account to be added. -/
structure NewAccount where
  username : String
  password : String
  level : Int
deriving DecidableEq, Repr, Inhabited

/-- What a worker needs to log in. -/
structure Credentials where
  username : String
  password : String
deriving DecidableEq, Repr, Inhabited

namespace Account

/-- An account that was never used. -/
def fresh (n : NewAccount) : Account where
  username := n.username
  password := n.password
  level := n.level
  warned := false
  warnExpiration := none
  suspended := false
  banned := false
  invalid := false
  disabled := false
  lastSelected := none
  lastReleased := none
  lastDisabled := none
  lastBanned := none
  lastSuspended := none

def credentials (a : Account) : Credentials := ⟨a.username, a.password⟩

/-- Whether a warning is running. -/
def warnActive (a : Account) (now : Instant) : Bool := a.warnExpiration.any (now < ·)

/-- Whether the account was disabled within the cooldown. -/
def disabledRecently (a : Account) (now : Instant) : Bool :=
  a.lastDisabled.any (now - disableCooldown < ·)

/-- Whether the account may be used now. -/
def isUsable (a : Account) (now : Instant) : Bool :=
  !a.suspended && !a.banned && !a.warnActive now && !a.disabledRecently now

def hasLevelFrom (lo : Int) (a : Account) : Bool := lo ≤ a.level

def hasLevelBetween (lo hi : Int) (a : Account) : Bool := lo ≤ a.level && a.level ≤ hi

end Account

end ScanFleet
