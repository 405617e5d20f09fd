import ScanFleet.Account.Basic
import ScanFleet.Area.Definition

/-! Stores of accounts, areas and devices.  A store is read as a whole or by one device; it is
changed by writes that name a single row, and by two that go over all accounts. -/

namespace ScanFleet

/-- What is stored about a worker's device. -/
structure Device where
  worker : String
  area : Option Int
  username : Option String
  lastHost : Option String
  lastSeen : Instant
deriving DecidableEq, Repr, Inhabited

/-- A change of one row. -/
inductive Write where
  | selected (username : String) (now : Instant)
  | released (username : String) (now : Instant)
  | suspended (username : String) (now : Instant)
  | banned (username : String) (now : Instant)
  | disabled (username : String) (now : Instant)
  | invalid (username : String)
  | warned (username : String) (expiration : Instant)
  | level (username : String) (level : Int)
  | device (device : Device)
  | deviceAccount (worker : String) (username : Option String)
  | questRoute (area : Int) (route : Route)

/-- What a fleet asks of its store.  Reading changes nothing. -/
class Store (σ : Type) where
  loadAccounts : σ → Except FleetError (List Account)
  /-- Adds the accounts whose usernames are new; the result is their number. -/
  insertAccounts : List NewAccount → σ → Except FleetError Nat × σ
  /-- Sets the time of release of the accounts without one; the result is their number. -/
  releaseAll : Instant → σ → Except FleetError Nat × σ
  loadAreas : σ → Except FleetError (List AreaRecord)
  findDevice : String → σ → Except FleetError (Option Device)
  write : Write → σ → Except FleetError Unit × σ

end ScanFleet
