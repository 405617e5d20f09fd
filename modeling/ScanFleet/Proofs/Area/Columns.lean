import ScanFleet.Area.Definition

/-! The two readings of a row.  A startup takes a row only if its columns are well formed and its
pokemon route has a step.  A reload takes any row, and where both take it they agree. -/

namespace ScanFleet

/-- `route` is what a column says, or it is empty because the column is malformed. -/
def ReadsAs (column : Option String) (route : Route) : Prop :=
  readColumn column = .ok route ∨ (∃ e, readColumn column = .error e) ∧ route = []

theorem readsAs_lenientColumn (column : Option String) : ReadsAs column (lenientColumn column) := by
  unfold ReadsAs lenientColumn
  cases readColumn column with
  | error e => exact .inr ⟨⟨e, rfl⟩, rfl⟩
  | ok route => exact .inl rfl

theorem lenientColumn_of_ok {column : Option String} {route : Route}
    (h : readColumn column = .ok route) : lenientColumn column = route := by
  rw [lenientColumn, h]
  rfl

theorem strictColumn_eq_ok {id : Int} {name : String} {column : Option String} {route : Route} :
    strictColumn id name column = .ok route ↔ readColumn column = .ok route := by
  unfold strictColumn
  cases readColumn column with
  | error e => exact ⟨nofun, nofun⟩
  | ok s =>
    change Except.ok s = Except.ok route ↔ Except.ok s = Except.ok route
    rw [Except.ok.injEq, Except.ok.injEq]

/-- The columns of routes and the fence are well formed, and the pokemon route has a step. -/
def AreaRecord.WellFormed (r : AreaRecord) : Prop :=
  ∃ route questRoute fence, readColumn r.pokemonRoute = .ok route ∧ route ≠ [] ∧
    readColumn r.questRoute = .ok questRoute ∧ readColumn r.fence = .ok fence

namespace Definition

variable {r : AreaRecord} {d : Definition}

/-- `d` is what the row `r` says, malformed columns taken as empty. -/
structure FromRow (r : AreaRecord) (d : Definition) : Prop where
  id : d.id = r.id
  name : d.name = r.name
  target : d.target = r.pokemonWorkers.toNat
  hours : d.hours = r.hours
  route : ReadsAs r.pokemonRoute d.route
  questRoute : ReadsAs r.questRoute d.questRoute
  fence : ReadsAs r.fence d.fence.points

theorem fromRow_lenient (r : AreaRecord) : FromRow r (.lenient r) :=
  ⟨rfl, rfl, rfl, rfl, readsAs_lenientColumn _, readsAs_lenientColumn _, readsAs_lenientColumn _⟩

theorem strict_eq_ok : Definition.strict r = .ok d ↔ r.WellFormed ∧ d = .lenient r := by
  constructor
  · intro h
    unfold Definition.strict at h
    split at h
    next => cases h
    next => cases h
    next route hne hroute =>
      split at h
      next => cases h
      next questRoute hquest =>
        split at h
        next => cases h
        next fence hfence =>
          cases h
          rw [strictColumn_eq_ok] at hroute hquest hfence
          refine ⟨⟨route, questRoute, fence, hroute, hne, hquest, hfence⟩, ?_⟩
          rw [lenient, lenientColumn_of_ok hroute, lenientColumn_of_ok hquest,
            lenientColumn_of_ok hfence]
  · rintro ⟨⟨route, questRoute, fence, hroute, hne, hquest, hfence⟩, rfl⟩
    obtain ⟨l, ls, rfl⟩ := List.exists_cons_of_ne_nil hne
    rw [strict, strictColumn_eq_ok.mpr hroute, strictColumn_eq_ok.mpr hquest,
      strictColumn_eq_ok.mpr hfence, lenient, lenientColumn_of_ok hroute,
      lenientColumn_of_ok hquest, lenientColumn_of_ok hfence]

theorem lenient_of_strict (h : Definition.strict r = .ok d) : Definition.lenient r = d :=
  (strict_eq_ok.mp h).2.symm

end Definition

end ScanFleet
