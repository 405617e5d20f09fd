import Mathlib.Logic.Function.Basic
import ScanFleet.Proofs.Fleet.Reload
import ScanFleet.Proofs.Pool.Run
import ScanFleet.Proofs.Store.Rows

/-! The atlas of a fleet: what it has of each area that a row of the table speaks of, and the rows
of areas in its store.  A quest start or a rebuild changes one chart of it; a cut, a purge and the
gate of quest scanning change none. -/

namespace ScanFleet

/-- What a fleet has of an area, and a reload compares with its row. -/
structure Chart where
  target : Nat
  route : Route
  questRoute : Route
  fence : Fence

namespace Area

def chart (a : Area) : Chart := ⟨a.target, a.route, a.questRoute, a.fence⟩

theorem chart_checkQuests (a : Area) (services : Services) (now : Instant) :
    (a.checkQuests services now).2.chart = a.chart := by
  unfold checkQuests
  split <;> rfl

theorem chart_nextQuestStep (a : Area) : a.nextQuestStep.2.chart = a.chart := by
  unfold nextQuestStep
  split
  · rfl
  · split <;> rfl

theorem chart_purgeCaches (a : Area) (now : Instant) : (a.purgeCaches now).2.chart = a.chart := by
  unfold purgeCaches
  split <;> rfl

theorem chart_recalculate (a : Area) (ids : List String) (now : Instant) (unseen : Span)
    (s : Sessions) : (a.recalculate ids now unseen s).2.1.chart = a.chart := by
  unfold recalculate
  dsimp only
  split <;> rfl

/-- A quest start replaces the quest route at most. -/
theorem chart_startQuesting (a : Area) (services : Services) :
    (a.startQuesting services).2.chart = { a.chart with questRoute := a.startRoute services } := by
  unfold startQuesting
  dsimp only
  split <;> rfl

end Area

namespace Areas

def chart? (as : Areas) (id : Int) : Option Chart := (as.find? id).map (·.chart)

theorem isSome_chart?_iff {as : Areas} {id : Int} : (as.chart? id).isSome ↔ id ∈ as.ids := by
  rw [chart?, Option.isSome_map, isSome_find?_iff]

theorem chart?_of_find? {as : Areas} {id : Int} {a : Area} (h : as.find? id = some a) :
    as.chart? id = some a.chart := congrArg (Option.map Area.chart) h

theorem chart?_replace {as : Areas} {a b : Area} (ha : as.find? a.id = some a) (hid : b.id = a.id) :
    (as.replace b).chart? = Function.update as.chart? a.id (some b.chart) := by
  funext id
  rw [chart?, find?_replace, hid]
  by_cases h : id = a.id
  · subst h
    rw [if_pos rfl, ha, Function.update_self]
    rfl
  · rw [if_neg h, Function.update_of_ne h, chart?]

theorem chart?_replace_of_eq {as : Areas} {a b : Area} (ha : as.find? a.id = some a)
    (hid : b.id = a.id) (hb : b.chart = a.chart) : (as.replace b).chart? = as.chart? := by
  rw [chart?_replace ha hid, hb]
  refine Function.update_eq_self_iff.mpr ?_
  rw [chart?, ha]
  rfl

end Areas

/-- The charts of the areas, the rows of areas in the store, and whether it refuses writes. -/
structure Atlas where
  chart? : Int → Option Chart
  rows : List AreaRecord
  readOnly : Bool

namespace Atlas

/-- Gives an area a quest route that its row does not get. -/
def improvise (t : Atlas) (id : Int) (c : Chart) (route : Route) : Atlas :=
  { t with chart? := Function.update t.chart? id (some { c with questRoute := route }) }

/-- Gives an area and its row a quest route. -/
def rebuild (t : Atlas) (id : Int) (c : Chart) (route : Route) : Atlas :=
  { t.improvise id c route with
    rows := if t.readOnly then t.rows else t.rows.map fun r =>
      if r.id = id then { r with questRoute := some (Route.text route) } else r }

end Atlas

namespace Fleet

def atlas (f : Fleet Tables) : Atlas := ⟨f.areas.chart?, f.store.areas, f.store.readOnly⟩

variable (f : Fleet Tables)

/-! ### What leaves the atlas alone -/

theorem store_persist (w : Write) :
    (f.persist w).store = if f.store.readOnly then f.store else f.store.apply w := by
  simp only [persist, Store.write, Tables.write]
  split <;> rfl

theorem atlas_persist {w : Write} (hw : ∀ t : Tables, (t.apply w).areas = t.areas) :
    (f.persist w).atlas = f.atlas := by
  unfold atlas
  rw [store_persist]
  split
  · rfl
  · rw [hw, Tables.readOnly_apply]
    rfl

theorem atlas_replace {a b : Area} (ha : f.areas.find? a.id = some a) (hid : b.id = a.id)
    (hb : b.chart = a.chart) : { f with areas := f.areas.replace b }.atlas = f.atlas := by
  unfold atlas
  rw [Areas.chart?_replace_of_eq ha hid hb]

theorem atlas_recalculate (area : Int) (now : Instant) :
    (f.recalculate area now).2.atlas = f.atlas := by
  unfold recalculate
  split
  · rfl
  next a ha =>
    have hid := Areas.id_of_find? ha
    subst hid
    exact f.atlas_replace ha (a.samePlan_recalculate _ _ _ _).id (a.chart_recalculate _ _ _ _)

theorem atlas_purgeCaches (area : Int) (now : Instant) :
    (f.purgeCaches area now).atlas = f.atlas := by
  unfold purgeCaches
  split
  · rfl
  next a ha =>
    have hid := Areas.id_of_find? ha
    subst hid
    exact f.atlas_replace ha (a.samePlan_purgeCaches now).id (a.chart_purgeCaches now)

theorem atlas_mark (u : String) (m : AccountMark) : (f.mark u m).atlas = f.atlas := by
  cases m with
  | suspended | banned | disabled | invalid | warned => exact atlas_persist _ fun _ => rfl
  | tutorialDone =>
    change (f.markTutorialDone u).atlas = f.atlas
    unfold markTutorialDone
    split
    · rfl
    · exact atlas_persist _ fun _ => rfl
  | level level =>
    change (f.setLevel u level).atlas = f.atlas
    unfold setLevel
    split
    · rfl
    · split
      · rfl
      · exact atlas_persist _ fun _ => rfl

theorem atlas_allocate (accept : Account → Bool) (now : Instant) :
    (f.allocate accept now).2.atlas = f.atlas := by
  unfold allocate
  split
  · rfl
  · exact atlas_persist _ fun _ => rfl

theorem atlas_release (u : String) (now : Instant) : (f.release u now).atlas = f.atlas :=
  atlas_persist _ fun _ => rfl

end Fleet

end ScanFleet
