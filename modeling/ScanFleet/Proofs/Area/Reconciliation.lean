import Mathlib.Data.List.Nodup
import ScanFleet.Proofs.Area.Registry
import ScanFleet.Proofs.Geo.Same

/-! What a reconciliation with definitions makes of the areas.  Where no id is defined twice, each
definition meets the area that was there before, so the result is read off the old areas and the
definitions alone: which areas there are, what they are, and which ids are listed as added, changed
and removed. -/

namespace ScanFleet

namespace Area

/-- The area is what a definition says. -/
structure Reads (a : Area) (d : Definition) : Prop where
  id : a.id = d.id
  name : a.name = d.name
  target : a.target = d.target
  route : Route.Same a.route d.route
  questRoute : Route.Same a.questRoute d.questRoute
  fence : a.fence.Same d.fence
  hours : a.hours = d.hours

/-- `b` has the memory of `a` about quest scanning, its caches, and its quest pass.  The pass ends
when the next step is not on another quest route. -/
structure Continues (a b : Area) (questRoute : Route) : Prop where
  last : b.schedule.last = a.schedule.last
  caches : b.caches = a.caches
  pass : b.pass = if a.questRoute != questRoute then a.pass.filter (· < questRoute.length)
    else a.pass

/-- A pass over a quest route that is taken away ends. -/
theorem Continues.pass_eq_none {a b : Area} (h : a.Continues b []) (hne : a.questRoute ≠ []) :
    b.pass = none := by
  have hdiffers : (a.questRoute != []) = true := by
    cases hq : a.questRoute with
    | nil => exact absurd hq hne
    | cons => rfl
  rw [h.pass, if_pos hdiffers]
  cases a.pass <;> rfl

/-- A pass whose next step is on the new quest route goes on. -/
theorem Continues.pass_eq_some {a b : Area} {questRoute : Route} (h : a.Continues b questRoute)
    {step : Nat} (hpass : a.pass = some step) (hstep : step < questRoute.length) :
    b.pass = some step := by
  rw [h.pass, hpass]
  split
  · simp [hstep]
  · rfl

theorem reads_ofDefinition (d : Definition) : (Area.ofDefinition d).Reads d :=
  ⟨rfl, rfl, rfl, .refl _, .refl _, .refl _, rfl⟩

theorem questRoute_applyDefinition (a : Area) (d : Definition) :
    (a.applyDefinition d).2.questRoute =
      if a.questRoute != d.questRoute then d.questRoute else a.questRoute := by
  unfold applyDefinition
  dsimp only
  split <;> rfl

theorem reads_applyDefinition {a : Area} {d : Definition} (h : a.id = d.id) :
    (a.applyDefinition d).2.Reads d := by
  have hquest := questRoute_applyDefinition a d
  constructor
  · rw [id_applyDefinition, h]
  · unfold applyDefinition
    dsimp only
    split <;> rfl
  · unfold applyDefinition
    dsimp only
    split <;> rfl
  · have hroute : (a.applyDefinition d).2.route =
        if a.route != d.route then d.route else a.route := by
      unfold applyDefinition
      dsimp only
      split <;> rfl
    rw [hroute]
    exact .taken _ _
  · rw [hquest]
    exact .taken _ _
  · have hfence : (a.applyDefinition d).2.fence =
        if a.fence != d.fence then d.fence else a.fence := by
      unfold applyDefinition
      dsimp only
      split <;> rfl
    rw [hfence]
    exact .taken _ _
  · unfold applyDefinition
    dsimp only
    split <;> rfl

theorem continues_applyDefinition (a : Area) (d : Definition) :
    Continues a (a.applyDefinition d).2 d.questRoute := by
  unfold applyDefinition
  dsimp only
  split
  next h => exact ⟨rfl, rfl, by rw [if_pos h]; rfl⟩
  next h => exact ⟨rfl, rfl, by rw [if_neg h]⟩

end Area

namespace Areas

/-! ### Ascending ids -/

def Ascending (as : Areas) : Prop := as.ids.Pairwise (· < ·)

theorem ascending_empty : Ascending .empty := List.Pairwise.nil

theorem ids_replace (as : Areas) (a : Area) : (as.replace a).ids = as.ids := by
  rw [ids, replace, List.map_map]
  refine List.map_congr_left fun b _ => ?_
  simp only [Function.comp_apply]
  split
  next h => exact h.symm
  next => rfl

theorem Ascending.nodup {as : Areas} (h : as.Ascending) : as.ids.Nodup := h.imp Int.ne_of_lt

/-- An area that takes its own place changes nothing. -/
theorem Ascending.replace_self {as : Areas} (h : as.Ascending) {id : Int} {a : Area}
    (ha : as.find? id = some a) : as.replace a = as := by
  have hmem := List.mem_of_find?_eq_some ha
  have hsame : as.list.map (fun b => if b.id = a.id then a else b) = as.list.map fun b => b := by
    refine List.map_congr_left fun b hb => ?_
    split
    next he => exact (Keyed.eq_of_key (k := Area.id) h.nodup hb hmem he).symm
    next => rfl
  rw [replace, hsame, List.map_id']

theorem mem_insertArea {a b : Area} {l : List Area} (h : b ∈ insertArea a l) : b = a ∨ b ∈ l := by
  induction l with
  | nil => exact .inl (List.mem_singleton.mp h)
  | cons c rest ih =>
    simp only [insertArea] at h
    split at h
    · exact List.mem_cons.mp h
    · split at h
      · rcases List.mem_cons.mp h with h | h
        · exact .inl h
        · exact .inr (List.mem_cons_of_mem c h)
      · rcases List.mem_cons.mp h with h | h
        · exact .inr (h ▸ List.mem_cons_self)
        · exact (ih h).imp_right (List.mem_cons_of_mem c)

theorem Ascending.insert {as : Areas} (h : as.Ascending) (a : Area) : (as.insert a).Ascending := by
  obtain ⟨list⟩ := as
  simp only [Ascending, ids, Areas.insert, List.pairwise_map] at h ⊢
  induction list with
  | nil => exact List.pairwise_singleton _ a
  | cons b rest ih =>
    obtain ⟨hb, hrest⟩ := List.pairwise_cons.mp h
    simp only [insertArea]
    split
    next hlt =>
      refine List.pairwise_cons.mpr ⟨?_, h⟩
      intro c hc
      rcases List.mem_cons.mp hc with rfl | hc
      · exact hlt
      · have := hb c hc; omega
    next hlt =>
      split
      next heq =>
        refine List.pairwise_cons.mpr ⟨?_, hrest⟩
        intro c hc
        have := hb c hc
        omega
      next hne =>
        refine List.pairwise_cons.mpr ⟨?_, ih hrest⟩
        intro c hc
        rcases mem_insertArea hc with rfl | hc
        · omega
        · exact hb c hc

theorem Ascending.filter {as : Areas} (h : as.Ascending) (p : Area → Bool) :
    ((as.list.filter p).map (·.id)).Pairwise (· < ·) :=
  h.sublist (List.filter_sublist.map _)

theorem Ascending.applyOne {acc : Areas × List Int × List Int} (h : acc.1.Ascending)
    (d : Definition) : (applyOne acc d).1.Ascending := by
  obtain ⟨as, added, changed⟩ := acc
  unfold Areas.applyOne
  dsimp only
  split
  · exact h.insert _
  · rw [Ascending, ids_replace]
    exact h

theorem Ascending.foldl {acc : Areas × List Int × List Int} (h : acc.1.Ascending)
    (ds : List Definition) : (ds.foldl Areas.applyOne acc).1.Ascending := by
  induction ds generalizing acc with
  | nil => exact h
  | cons d ds ih => exact ih (h.applyOne d)

/-! ### One definition after the other -/

/-- What a definition makes of the area with its id. -/
def renewed (as : Areas) (d : Definition) : Area :=
  match as.find? d.id with
  | none => .ofDefinition d
  | some a => (a.applyDefinition d).2

def isNew (as : Areas) (d : Definition) : Bool := (as.find? d.id).isNone

def isChanged (as : Areas) (d : Definition) : Bool :=
  (as.find? d.id).any fun a => (a.applyDefinition d).1

theorem reads_renewed (as : Areas) (d : Definition) : (as.renewed d).Reads d := by
  unfold renewed
  split
  next => exact Area.reads_ofDefinition d
  next a ha => exact Area.reads_applyDefinition (id_of_find? ha)

theorem continues_renewed {as : Areas} {d : Definition} {a : Area} (ha : as.find? d.id = some a) :
    a.Continues (as.renewed d) d.questRoute := by
  have hrenewed : as.renewed d = (a.applyDefinition d).2 := by simp only [renewed, ha]
  rw [hrenewed]
  exact a.continues_applyDefinition d

theorem find?_applyOne (acc : Areas × List Int × List Int) (d : Definition) (id : Int) :
    (applyOne acc d).1.find? id =
      if id = d.id then some (acc.1.renewed d) else acc.1.find? id := by
  obtain ⟨as, added, changed⟩ := acc
  cases ha : as.find? d.id with
  | none =>
    have hrenewed : as.renewed d = .ofDefinition d := by simp only [renewed, ha]
    simp only [Areas.applyOne, ha, hrenewed, find?_register]
  | some a =>
    have hrenewed : as.renewed d = (a.applyDefinition d).2 := by simp only [renewed, ha]
    have hid : (a.applyDefinition d).2.id = d.id := (a.id_applyDefinition d).trans (id_of_find? ha)
    simp only [Areas.applyOne, ha, hrenewed, find?_replace, hid]
    split
    next he => rw [he, ha, Option.map_some]
    next => rfl

theorem listed_applyOne (acc : Areas × List Int × List Int) (d : Definition) :
    (applyOne acc d).2 = (acc.2.1 ++ if acc.1.isNew d then [d.id] else [],
      acc.2.2 ++ if acc.1.isChanged d then [d.id] else []) := by
  obtain ⟨as, added, changed⟩ := acc
  unfold Areas.applyOne isNew isChanged
  dsimp only
  split
  next hnone => simp [hnone]
  next a ha =>
    cases hc : (a.applyDefinition d).1 <;> simp [ha, hc]

/-- Definitions of distinct ids do not meet each other's areas. -/
theorem foldl_applyOne {ds : List Definition} (h : (ds.map (·.id)).Nodup)
    (acc : Areas × List Int × List Int) :
    (∀ id, (ds.foldl applyOne acc).1.find? id =
      match ds.find? (·.id = id) with
      | some d => some (acc.1.renewed d)
      | none => acc.1.find? id) ∧
    (ds.foldl applyOne acc).2 = (acc.2.1 ++ (ds.filter acc.1.isNew).map (·.id),
      acc.2.2 ++ (ds.filter acc.1.isChanged).map (·.id)) := by
  induction ds generalizing acc with
  | nil => simp
  | cons d ds ih =>
    obtain ⟨hd, hds⟩ := List.nodup_cons.mp h
    have hne : ∀ e ∈ ds, e.id ≠ d.id := fun e he heq => hd (List.mem_map.mpr ⟨e, he, heq⟩)
    obtain ⟨hfind, hlisted⟩ := ih hds (applyOne acc d)
    -- The other definitions find their areas as they were, so they do what they would have done.
    have hother : ∀ e ∈ ds, (applyOne acc d).1.find? e.id = acc.1.find? e.id := by
      intro e he
      rw [find?_applyOne, if_neg (hne e he)]
    have hrenewed : ∀ e ∈ ds, (applyOne acc d).1.renewed e = acc.1.renewed e := by
      intro e he
      rw [renewed, hother e he, renewed]
    have hnew : ds.filter (applyOne acc d).1.isNew = ds.filter acc.1.isNew :=
      List.filter_congr fun e he => by rw [isNew, hother e he, isNew]
    have hchanged : ds.filter (applyOne acc d).1.isChanged = ds.filter acc.1.isChanged :=
      List.filter_congr fun e he => by rw [isChanged, hother e he, isChanged]
    rw [List.foldl_cons]
    refine ⟨fun id => ?_, ?_⟩
    · rw [hfind, List.find?_cons]
      by_cases he : d.id = id
      · have hnone : ds.find? (·.id = id) = none := by
          rw [List.find?_eq_none]
          intro e hmem
          rw [← he]
          simpa using hne e hmem
        simp only [hnone, he, decide_true]
        rw [find?_applyOne, if_pos he.symm]
      · simp only [he, decide_false]
        cases hfound : ds.find? (·.id = id) with
        | some e => exact congrArg some (hrenewed e (List.mem_of_find?_eq_some hfound))
        | none => exact (find?_applyOne acc d id).trans (if_neg (Ne.symm he))
    · rw [hlisted, listed_applyOne, hnew, hchanged, List.filter_cons, List.filter_cons]
      cases acc.1.isNew d <;> cases acc.1.isChanged d <;> simp

/-! ### The whole reconciliation -/

theorem pairwise_mergeSort_of_nodup {l : List Int} (h : l.Nodup) :
    l.mergeSort.Pairwise (· < ·) := by
  have hle : l.mergeSort.Pairwise (fun a b => a ≤ b) := by
    have hsorted : l.mergeSort.Pairwise (fun a b => decide (a ≤ b)) :=
      List.pairwise_mergeSort (by simp only [decide_eq_true_eq]; omega)
        (by simp only [Bool.or_eq_true, decide_eq_true_eq]; omega) l
    simpa using hsorted
  have hne : l.mergeSort.Pairwise (fun a b => a ≠ b) := (List.mergeSort_perm l _).nodup_iff.mpr h
  exact hle.imp₂ (fun a b hle hne => by omega) hne

theorem Ascending.apply {as : Areas} (h : as.Ascending) (ds : List Definition) :
    (as.apply ds).2.Ascending :=
  have hfold : (ds.foldl Areas.applyOne (as, [], [])).1.Ascending := Ascending.foldl h ds
  hfold.filter _

theorem pairwise_removed {as : Areas} (h : as.Ascending) (ds : List Definition) :
    ((as.apply ds).1.removed.map (·.id)).Pairwise (· < ·) := by
  have hfold : (ds.foldl Areas.applyOne (as, [], [])).1.Ascending := Ascending.foldl h ds
  have hfiltered := hfold.filter fun a => ! ds.any (·.id = a.id)
  unfold Areas.apply
  dsimp only
  rw [List.map_map]
  exact hfiltered

section

variable {ds : List Definition} (h : (ds.map (·.id)).Nodup) (as : Areas)
include h

theorem find?_apply_eq (id : Int) :
    (as.apply ds).2.find? id = (ds.find? (·.id = id)).map as.renewed := by
  have hfind := (foldl_applyOne h (as, [], [])).1 id
  unfold Areas.apply
  dsimp only
  rw [find?_filter _ (fun id => ds.any (·.id = id)), hfind]
  cases hd : ds.find? (·.id = id) with
  | some d =>
    have hany : ds.any (·.id = id) :=
      List.any_eq_true.mpr ⟨d, List.mem_of_find?_eq_some hd, by simpa using List.find?_some hd⟩
    rw [if_pos hany]
    rfl
  | none =>
    have hany : ¬ ds.any (·.id = id) := by
      rw [List.any_eq_true]
      rintro ⟨d, hd', hid⟩
      exact List.find?_eq_none.mp hd d hd' hid
    rw [if_neg hany]
    rfl

theorem added_apply : (as.apply ds).1.added = ((ds.filter as.isNew).map (·.id)).mergeSort := by
  change (ds.foldl applyOne (as, [], [])).2.1.mergeSort = _
  rw [(foldl_applyOne h (as, [], [])).2]
  rfl

theorem changed_apply :
    (as.apply ds).1.changed = ((ds.filter as.isChanged).map (·.id)).mergeSort := by
  change (ds.foldl applyOne (as, [], [])).2.2.mergeSort = _
  rw [(foldl_applyOne h (as, [], [])).2]
  rfl

theorem pairwise_added : (as.apply ds).1.added.Pairwise (· < ·) := by
  rw [added_apply h]
  exact pairwise_mergeSort_of_nodup (h.sublist (List.filter_sublist.map _))

theorem pairwise_changed : (as.apply ds).1.changed.Pairwise (· < ·) := by
  rw [changed_apply h]
  exact pairwise_mergeSort_of_nodup (h.sublist (List.filter_sublist.map _))

theorem mem_added_apply {id : Int} :
    id ∈ (as.apply ds).1.added ↔ id ∈ ds.map (·.id) ∧ as.find? id = none := by
  rw [added_apply h, List.mem_mergeSort]
  simp only [List.mem_map, List.mem_filter, isNew, Option.isNone_iff_eq_none]
  constructor
  · rintro ⟨d, ⟨hd, hnone⟩, rfl⟩
    exact ⟨⟨d, hd, rfl⟩, hnone⟩
  · rintro ⟨⟨d, hd, rfl⟩, hnone⟩
    exact ⟨d, ⟨hd, hnone⟩, rfl⟩

theorem mem_changed_apply {id : Int} :
    id ∈ (as.apply ds).1.changed ↔
      ∃ d ∈ ds, d.id = id ∧ ∃ a, as.find? id = some a ∧ (a.applyDefinition d).1 := by
  rw [changed_apply h, List.mem_mergeSort]
  simp only [List.mem_map, List.mem_filter, isChanged, Option.any_eq_true]
  constructor
  · rintro ⟨d, ⟨hd, a, ha, hc⟩, rfl⟩
    exact ⟨d, hd, rfl, a, ha, hc⟩
  · rintro ⟨d, hd, rfl, a, ha, hc⟩
    exact ⟨d, ⟨hd, a, ha, hc⟩, rfl⟩

theorem mem_removed_apply {id : Int} :
    id ∈ (as.apply ds).1.removed.map (·.id) ↔ (as.find? id).isSome ∧ id ∉ ds.map (·.id) := by
  have hfind := (foldl_applyOne h (as, [], [])).1 id
  have hids : id ∈ (ds.foldl Areas.applyOne (as, [], [])).1.ids ∧ id ∉ ds.map (·.id) ↔
      (as.find? id).isSome ∧ id ∉ ds.map (·.id) := by
    refine and_congr_left fun hnot => ?_
    have hnone : ds.find? (·.id = id) = none := by
      rw [List.find?_eq_none]
      intro d hd hid
      exact hnot (List.mem_map.mpr ⟨d, hd, by simpa using hid⟩)
    rw [← isSome_find?_iff, hfind, hnone]
  rw [← hids]
  unfold Areas.apply
  dsimp only
  rw [List.map_map]
  simp only [List.mem_map, List.mem_filter, Bool.not_eq_true', List.any_eq_false,
    decide_eq_true_eq, Function.comp_apply, ids]
  constructor
  · rintro ⟨a, ⟨ha, hnot⟩, rfl⟩
    exact ⟨⟨a, ha, rfl⟩, fun ⟨d, hd, he⟩ => hnot d hd he⟩
  · rintro ⟨⟨a, ha, rfl⟩, hnot⟩
    exact ⟨a, ⟨ha, fun d hd he => hnot ⟨d, hd, he⟩⟩, rfl⟩

end

end Areas

end ScanFleet
