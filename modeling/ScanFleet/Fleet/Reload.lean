import ScanFleet.Fleet.Accounts

/-! Loading the accounts and areas of a fleet from its store: once at startup, where a malformed
area is an error, and again at any time, where it is not. -/

namespace ScanFleet

/-- How many accounts and areas a startup found. -/
structure StartupCounts where
  accounts : Nat
  areas : Nat
deriving DecidableEq, Repr

/-- What a reload of the areas changed. -/
structure AreaChanges where
  added : List Int
  changed : List Int
  removed : List Int
deriving DecidableEq, Repr

namespace Fleet

variable {σ : Type}

/-- Registers areas from their rows up to the first malformed one. -/
def registerAll (f : Fleet σ) : List AreaRecord → Except FleetError Unit × Fleet σ
  | [] => (.ok (), f)
  | r :: rs =>
    match Definition.strict r with
    | .error e => (.error e, f)
    | .ok d => { f with areas := f.areas.register d }.registerAll rs

/-- Loads accounts and areas at startup.  Accounts that were never released are stamped as released
now, so that they can be selected. -/
def bootstrap [Store σ] (f : Fleet σ) (now : Instant) : Except FleetError StartupCounts × Fleet σ :=
  let f := { f with store := (Store.releaseAll now f.store).2 }
  match f.reloadAccounts with
  | (.error e, f) => (.error e, f)
  | (.ok _, f) =>
    match Store.loadAreas f.store with
    | .error e => (.error e, f)
    | .ok rows =>
      match f.registerAll rows with
      | (.error e, f) => (.error e, f)
      | (.ok _, f) => (.ok ⟨f.pool.accounts.length, f.areas.list.length⟩, f)

/-- Unbinds the workers of an area. -/
def unbindWorkers (f : Fleet σ) (area : Int) : Fleet σ :=
  { f with sessions := f.sessions.modifyAll (f.workersOf area) .unbindArea }

/-- Reads the areas again.  Workers of removed areas are unbound, and the routes of new and changed
areas are cut anew. -/
def reloadAreas [Store σ] (f : Fleet σ) (now : Instant) : Except FleetError AreaChanges × Fleet σ :=
  match Store.loadAreas f.store with
  | .error e => (.error e, f)
  | .ok rows =>
    let (r, areas) := f.areas.apply (rows.map Definition.lenient)
    let removed := r.removed.map (·.id)
    let f := removed.foldl unbindWorkers { f with areas }
    let f := r.affected.foldl (fun f area => (f.recalculate area now).2) f
    (.ok ⟨r.added, r.changed, removed⟩, f)

end Fleet

end ScanFleet
