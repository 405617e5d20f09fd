import ScanFleet.Area.Registry
import ScanFleet.Proofs.Keyed

/-! The areas as a map from ids.  Quest scanning, caches and cuts change an area in place and keep
its plan; a reconciliation with a set of definitions is described by which ids it keeps, which of
them it lists for a new cut, and whose routes it leaves alone. -/

namespace ScanFleet

namespace Area

/-- `b` is `a` with the same route for as many workers. -/
structure SamePlan (a b : Area) : Prop where
  id : b.id = a.id
  target : b.target = a.target
  route : b.route = a.route

theorem SamePlan.refl (a : Area) : SamePlan a a := ⟨rfl, rfl, rfl⟩

theorem samePlan_checkQuests (a : Area) (services : Services) (now : Instant) :
    SamePlan a (a.checkQuests services now).2 := by
  unfold checkQuests
  split <;> exact ⟨rfl, rfl, rfl⟩

theorem samePlan_startQuesting (a : Area) (services : Services) :
    SamePlan a (a.startQuesting services).2 := by
  unfold startQuesting
  dsimp only
  split <;> exact ⟨rfl, rfl, rfl⟩

theorem samePlan_nextQuestStep (a : Area) : SamePlan a a.nextQuestStep.2 := by
  unfold nextQuestStep
  split
  · exact .refl a
  · split <;> exact ⟨rfl, rfl, rfl⟩

theorem samePlan_setQuestRoute (a : Area) (route : Route) : SamePlan a (a.setQuestRoute route) :=
  ⟨rfl, rfl, rfl⟩

theorem samePlan_purgeCaches (a : Area) (now : Instant) : SamePlan a (a.purgeCaches now).2 := by
  unfold purgeCaches
  split <;> exact ⟨rfl, rfl, rfl⟩

theorem samePlan_recalculate (a : Area) (ids : List String) (now : Instant) (unseen : Span)
    (s : Sessions) : SamePlan a (a.recalculate ids now unseen s).2.1 := by
  unfold recalculate
  dsimp only
  split <;> exact ⟨rfl, rfl, rfl⟩

/-- The step that a quest pass hands out is on the quest route, which stays. -/
theorem nextQuestStep_lt {a : Area} {step : Nat} (h : a.nextQuestStep.1 = some step) :
    step < a.questRoute.length ∧ a.nextQuestStep.2.questRoute = a.questRoute := by
  unfold nextQuestStep at h ⊢
  split at h
  · cases h
  · split at h
    · cases h
    next hlt => cases h; exact ⟨by omega, by rw [if_neg hlt]⟩

theorem id_applyDefinition (a : Area) (d : Definition) : (a.applyDefinition d).2.id = a.id := by
  unfold applyDefinition
  dsimp only
  split <;> rfl

theorem route_applyDefinition {a : Area} {d : Definition} (h : (a.applyDefinition d).1 = false) :
    (a.applyDefinition d).2.route = a.route := by
  unfold applyDefinition at h ⊢
  simp only [Bool.or_eq_false_iff] at h
  dsimp only
  split <;> simp [setQuestRoute, h.1.1]

end Area

namespace Areas

theorem id_of_find? {as : Areas} {id : Int} {a : Area} (h : as.find? id = some a) : a.id = id :=
  Keyed.key_of_find? (k := fun a : Area => a.id) h

theorem isSome_find?_iff {as : Areas} {id : Int} : (as.find? id).isSome ↔ id ∈ as.ids :=
  Keyed.isSome_find?_iff (k := fun a : Area => a.id)

theorem find?_replace (as : Areas) (b : Area) (id : Int) :
    (as.replace b).find? id = if id = b.id then (as.find? id).map fun _ => b else as.find? id := by
  have hid : ∀ a : Area, (if a.id = b.id then b else a).id = a.id := fun a => by
    split
    next h => exact h.symm
    next => rfl
  rw [find?, replace, Keyed.find?_map (k := fun a : Area => a.id) hid, ← find?]
  cases ha : as.find? id with
  | none => simp
  | some a => by_cases he : id = b.id <;> simp [id_of_find? ha, he]

theorem find?_replace_of_find? {as : Areas} {a b : Area} (ha : as.find? a.id = some a)
    (hid : b.id = a.id) (id : Int) :
    (as.replace b).find? id = if id = a.id then some b else as.find? id := by
  rw [find?_replace, hid]
  split
  next h =>
    rw [h, ha]
    rfl
  next => rfl

def route? (as : Areas) (id : Int) : Option Route := (as.find? id).map (·.route)

theorem route?_isSome_iff {as : Areas} {id : Int} :
    (as.route? id).isSome ↔ (as.find? id).isSome := by
  simp [route?]

theorem route?_replace {as : Areas} {a b : Area} (ha : as.find? a.id = some a)
    (hb : a.SamePlan b) (id : Int) : (as.replace b).route? id = as.route? id := by
  rw [route?, find?_replace, hb.id]
  split
  next he => subst he; simp [route?, ha, hb.route]
  next => rfl

theorem find?_insert (as : Areas) (b : Area) (id : Int) :
    (as.insert b).find? id = if id = b.id then some b else as.find? id := by
  obtain ⟨list⟩ := as
  simp only [insert, find?]
  induction list with
  | nil => by_cases h : id = b.id <;> simp [insertArea, h, eq_comm]
  | cons a rest ih =>
    simp only [insertArea]
    split
    · by_cases h : id = b.id <;> simp [List.find?_cons, h, eq_comm]
    · split
      next hb => by_cases h : id = b.id <;> simp [← hb, h, eq_comm]
      next hb =>
        by_cases ha : a.id = id
        · subst ha
          simp [Ne.symm hb]
        · simp [ha, ih]

theorem find?_register (as : Areas) (d : Definition) (id : Int) :
    (as.register d).find? id = if id = d.id then some (.ofDefinition d) else as.find? id :=
  find?_insert as (.ofDefinition d) id

/-! ### Choosing an area -/

theorem mem_of_neediest {l : List (Area × Nat)} {p : Area × Nat} (h : neediest l = some p) :
    p ∈ l := by
  induction l generalizing p with
  | nil => cases h
  | cons q rest ih =>
    obtain ⟨a, live⟩ := q
    simp only [neediest] at h
    split at h
    · exact List.mem_cons_of_mem _ (ih h)
    · split at h
      next b fewest hrest =>
        split at h
        · cases h; exact List.mem_cons_of_mem _ (ih hrest)
        · cases h; exact List.mem_cons_self
      next => cases h; exact List.mem_cons_self

theorem neediest_eq_none_iff {l : List (Area × Nat)} :
    neediest l = none ↔ ∀ p ∈ l, p.1.target ≤ p.2 := by
  induction l with
  | nil => simp [neediest]
  | cons q rest ih =>
    obtain ⟨a, live⟩ := q
    rw [neediest, List.forall_mem_cons, ← ih]
    split
    next hfull => simp [hfull]
    next hwants =>
      refine iff_of_false ?_ fun h => hwants h.1
      split
      · split <;> simp
      · simp

/-- What is chosen wants a worker and has the fewest, and of several such it has the lowest id. -/
theorem neediest_least {l : List (Area × Nat)} (hl : l.Pairwise (·.1.id < ·.1.id))
    {p : Area × Nat} (h : neediest l = some p) :
    p.2 < p.1.target ∧
      ∀ q ∈ l, q.2 < q.1.target → p.2 ≤ q.2 ∧ (q.1.id < p.1.id → p.2 < q.2) := by
  induction l generalizing p with
  | nil => cases h
  | cons q rest ih =>
    obtain ⟨a, live⟩ := q
    obtain ⟨hfirst, hrest⟩ := List.pairwise_cons.mp hl
    rw [neediest] at h
    split at h
    next hfull =>
      obtain ⟨hwants, hleast⟩ := ih hrest h
      refine ⟨hwants, List.forall_mem_cons.mpr ⟨fun hlt => ?_, hleast⟩⟩
      exact absurd hfull (Nat.not_le.mpr hlt)
    next hwants =>
      have hwants := Nat.not_le.mp hwants
      cases hn : neediest rest with
      | none =>
        obtain rfl : (a, live) = p := by simpa [hn] using h
        refine ⟨hwants, List.forall_mem_cons.mpr ⟨fun _ => ?_, fun q hq hlt => ?_⟩⟩
        · exact ⟨Nat.le_refl _, fun hid => absurd hid (Int.lt_irrefl _)⟩
        · exact absurd (neediest_eq_none_iff.mp hn q hq) (Nat.not_le.mpr hlt)
      | some best =>
        obtain ⟨hbest, hleast⟩ := ih hrest hn
        have hid : a.id < best.1.id := hfirst best (mem_of_neediest hn)
        simp only [hn] at h
        -- The first of two areas is chosen when both have as many.
        split at h
        next hfewer =>
          obtain rfl := Option.some.inj h
          exact ⟨hbest, List.forall_mem_cons.mpr
            ⟨fun _ => ⟨Nat.le_of_lt hfewer, fun _ => hfewer⟩, hleast⟩⟩
        next hmore =>
          have hle := Nat.not_lt.mp hmore
          obtain rfl := Option.some.inj h
          refine ⟨hwants, List.forall_mem_cons.mpr ⟨fun _ => ?_, fun q hq hlt => ?_⟩⟩
          · exact ⟨Nat.le_refl _, fun hid => absurd hid (Int.lt_irrefl _)⟩
          · refine ⟨Nat.le_trans hle (hleast q hq hlt).1, fun hqa => ?_⟩
            exact absurd (hfirst q hq) (Int.not_lt.mpr (Int.le_of_lt hqa))

/-- What a choice of an area does: nothing, or it binds the worker, which is bound to no registered
area, to a registered one. -/
theorem allocate_cases (as : Areas) (id : String) (now : Instant) (unseen : Span) (s : Sessions) :
    (∃ r, as.allocate id now unseen s = (r, s) ∧ ∀ a, r ≠ .ok (a, true)) ∨
      ∃ a, as.allocate id now unseen s = (.ok (a, true), s.modify id (·.bindArea a.id)) ∧
        (as.find? a.id).isSome ∧ ((s.find? id).bind (·.area)).bind as.find? = none := by
  unfold allocate
  split
  next a h => exact .inl ⟨_, rfl, by simp⟩
  next hnone =>
    split
    next => exact .inl ⟨_, rfl, by simp⟩
    next a live h =>
      refine .inr ⟨a, rfl, isSome_find?_iff.mpr ?_, hnone⟩
      obtain ⟨b, hb, he⟩ := List.mem_map.mp (mem_of_neediest h)
      cases he
      exact List.mem_map_of_mem hb

/-! ### Reconciliation -/

/-- What holds of the areas in the course of a reconciliation that began with `old`: no id is gone,
and an area that is not listed has the route that it had. -/
structure Reconciles (old : Areas) (acc : Areas × List Int × List Int) : Prop where
  kept : ∀ id, (old.find? id).isSome → (acc.1.find? id).isSome
  unlisted : ∀ id b, acc.1.find? id = some b → id ∉ acc.2.1 → id ∉ acc.2.2 →
    ∃ a, old.find? id = some a ∧ b.route = a.route

theorem Reconciles.refl (as : Areas) : Reconciles as (as, [], []) :=
  ⟨fun _ h => h, fun _ b h _ _ => ⟨b, h, rfl⟩⟩

theorem Reconciles.applyOne {old : Areas} {acc : Areas × List Int × List Int}
    (h : Reconciles old acc) (d : Definition) : Reconciles old (applyOne acc d) := by
  obtain ⟨as, added, changed⟩ := acc
  unfold Areas.applyOne
  dsimp only
  split
  next hnone =>
    refine ⟨fun id hid => ?_, fun id b hb hadd hch => ?_⟩
    · rw [find?_register]
      split
      · rfl
      · exact h.kept id hid
    · simp only [List.mem_append, List.mem_singleton, not_or] at hadd
      rw [find?_register, if_neg hadd.2] at hb
      exact h.unlisted id b hb hadd.1 hch
  next a ha =>
    have hid : (a.applyDefinition d).2.id = d.id :=
      (a.id_applyDefinition d).trans (id_of_find? ha)
    refine ⟨fun id hold => ?_, fun id b hb hadd hch => ?_⟩
    · rw [find?_replace, hid]
      have := h.kept id hold
      split <;> simp_all
    · rw [find?_replace, hid] at hb
      by_cases he : id = d.id
      · subst he
        cases hc : (a.applyDefinition d).1 with
        | true => simp [hc] at hch
        | false =>
          rw [hc, if_neg (by simp)] at hch
          rw [if_pos rfl, ha] at hb
          cases hb
          obtain ⟨a', ha', hr⟩ := h.unlisted d.id a ha hadd hch
          exact ⟨a', ha', (Area.route_applyDefinition hc).trans hr⟩
      · rw [if_neg he] at hb
        refine h.unlisted id b hb hadd fun hm => hch ?_
        split
        · exact List.mem_append_left _ hm
        · exact hm

theorem Reconciles.foldl {old : Areas} {acc : Areas × List Int × List Int}
    (h : Reconciles old acc) (ds : List Definition) :
    Reconciles old (ds.foldl Areas.applyOne acc) := by
  induction ds generalizing acc with
  | nil => exact h
  | cons d ds ih => exact ih (h.applyOne d)

theorem find?_filter (as : Areas) (p : Int → Bool) (id : Int) :
    find? ⟨as.list.filter fun a => p a.id⟩ id = if p id then as.find? id else none := by
  obtain ⟨list⟩ := as
  simp only [find?]
  induction list with
  | nil => simp
  | cons a list ih =>
    by_cases ha : a.id = id
    · by_cases hp : p id <;> simp_all
    · by_cases hp : p a.id <;> simp [hp, ha, ih]

/-- After a reconciliation a known id is registered or listed as removed. -/
theorem find?_apply (as : Areas) (ds : List Definition) {id : Int} (h : (as.find? id).isSome) :
    ((as.apply ds).2.find? id).isSome ∨ id ∈ (as.apply ds).1.removed.map (·.id) := by
  have hkept := ((Reconciles.refl as).foldl ds).kept id h
  unfold apply
  dsimp only
  rw [find?_filter _ (fun id => ds.any (·.id = id))]
  split
  · exact .inl hkept
  next hp =>
    refine .inr ?_
    obtain ⟨a, ha, rfl⟩ := List.mem_map.mp (isSome_find?_iff.mp hkept)
    simp only [List.map_map, List.mem_map, List.mem_filter, Function.comp_apply]
    exact ⟨a, ⟨ha, by simpa using hp⟩, rfl⟩

/-- After a reconciliation an area is listed for a new cut, or it has the route that it had. -/
theorem route_apply (as : Areas) (ds : List Definition) {id : Int} {b : Area}
    (h : (as.apply ds).2.find? id = some b) (hid : id ∉ (as.apply ds).1.affected) :
    ∃ a, as.find? id = some a ∧ b.route = a.route := by
  unfold apply at h hid
  simp only [Reconciliation.affected, List.mem_append, List.mem_mergeSort, not_or] at hid
  dsimp only at h
  rw [find?_filter _ (fun id => ds.any (·.id = id))] at h
  split at h
  · exact ((Reconciles.refl as).foldl ds).unlisted id b h hid.1 hid.2
  · cases h

theorem not_mem_removed (as : Areas) (ds : List Definition) {id : Int}
    (h : ((as.apply ds).2.find? id).isSome) : id ∉ (as.apply ds).1.removed.map (·.id) := by
  unfold apply at h ⊢
  dsimp only at h ⊢
  rw [find?_filter _ (fun id => ds.any (·.id = id))] at h
  intro hm
  simp only [List.map_map, List.mem_map, List.mem_filter, Function.comp_apply] at hm
  obtain ⟨a, ⟨-, ha⟩, rfl⟩ := hm
  rw [if_neg (by simpa using ha)] at h
  cases h

end Areas

end ScanFleet
