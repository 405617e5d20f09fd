import ScanFleet.Proofs.Fleet.Reconciliation

/-! Reloads that find nothing to do.  After a startup from nothing and after every reload the areas
are what the rows of the table say, and then a reload of the same rows changes nothing, unless a
coordinate is not a number and so differs from itself. -/

namespace ScanFleet

/-- The rows of a table whose key is the id, where every coordinate that can be read is a number. -/
structure Numeric (rows : List AreaRecord) : Prop where
  distinct : (rows.map (·.id)).Nodup
  route : ∀ r ∈ rows, (lenientColumn r.pokemonRoute).hasNaN = false
  questRoute : ∀ r ∈ rows, (lenientColumn r.questRoute).hasNaN = false
  fence : ∀ r ∈ rows, (lenientColumn r.fence).hasNaN = false

/-- A definition that an area is made of already changes nothing. -/
theorem Area.applyDefinition_of_reads {a : Area} {d : Definition} (h : a.Reads d)
    (hroute : d.route.hasNaN = false) (hquest : d.questRoute.hasNaN = false)
    (hfence : Route.hasNaN d.fence.points = false) : a.applyDefinition d = (false, a) := by
  have hsameRoute : (a.route != d.route) = false := by rw [bne, h.route.beq_eq, hroute]; rfl
  have hsameQuest : (a.questRoute != d.questRoute) = false := by
    rw [bne, h.questRoute.beq_eq, hquest]
    rfl
  have hsameFence : (a.fence != d.fence) = false := by rw [bne, h.fence.beq_eq, hfence]; rfl
  have hsameTarget : (a.target != d.target) = false := by rw [h.target, bne_self_eq_false]
  unfold applyDefinition
  rw [hsameRoute, hsameQuest, hsameFence, hsameTarget, ← h.name, ← h.target, ← h.hours]
  rfl

namespace Areas

/-- Each row has an area which is what the row says, and there are no other areas. -/
structure Settled (as : Areas) (rows : List AreaRecord) : Prop where
  ascending : as.Ascending
  listed : ∀ id ∈ as.ids, id ∈ rows.map (·.id)
  reads : ∀ r ∈ rows, ∃ a, as.find? r.id = some a ∧ a.Reads (.lenient r)

variable {as : Areas} {rows : List AreaRecord}

namespace Settled

variable (h : as.Settled rows) (hnum : Numeric rows)
include h hnum

theorem applyOne {r : AreaRecord} (hr : r ∈ rows) (added changed : List Int) :
    applyOne (as, added, changed) (.lenient r) = (as, added, changed) := by
  obtain ⟨a, ha, hreads⟩ := h.reads r hr
  have hfind : as.find? (Definition.lenient r).id = some a := ha
  have hsame := Area.applyDefinition_of_reads hreads (hnum.route r hr) (hnum.questRoute r hr)
    (hnum.fence r hr)
  simp only [Areas.applyOne, hfind, hsame, Bool.false_eq_true, if_false,
    h.ascending.replace_self ha]

theorem apply : as.apply (rows.map Definition.lenient) = (⟨[], [], []⟩, as) := by
  have hfold : (rows.map Definition.lenient).foldl Areas.applyOne (as, [], []) = (as, [], []) := by
    refine List.foldlRecOn (motive := fun acc => acc = (as, [], [])) _ _ rfl ?_
    rintro _ rfl d hd
    obtain ⟨r, hr, rfl⟩ := List.mem_map.mp hd
    exact h.applyOne hnum hr [] []
  have hdefined : ∀ a ∈ as.list, (rows.map Definition.lenient).any (·.id = a.id) := by
    intro a ha
    obtain ⟨r, hr, hid⟩ := List.mem_map.mp (h.listed a.id (List.mem_map_of_mem ha))
    exact List.any_eq_true.mpr ⟨.lenient r, List.mem_map_of_mem hr, decide_eq_true hid⟩
  have hkept : as.list.filter (fun a => (rows.map Definition.lenient).any (·.id = a.id)) =
      as.list := List.filter_eq_self.mpr hdefined
  have hgone : as.list.filter (fun a => ! (rows.map Definition.lenient).any (·.id = a.id)) = [] :=
    List.filter_eq_nil_iff.mpr fun a ha => by simp [hdefined a ha]
  unfold Areas.apply
  rw [hfold]
  dsimp only
  rw [hkept, hgone]
  simp

end Settled

end Areas

namespace Fleet

variable {σ : Type} [Store σ] {f : Fleet σ} {rows : List AreaRecord}

theorem reloadAreas_of_settled (hrows : Store.loadAreas f.store = .ok rows)
    (h : f.areas.Settled rows) (hnum : Numeric rows) (now : Instant) :
    f.reloadAreas now = (.ok ⟨[], [], []⟩, f) := by
  rw [reloadAreas, hrows]
  dsimp only
  rw [h.apply hnum]
  rfl

/-- A startup from nothing makes each area from its row. -/
theorem settled_bootstrap {settings : Settings} {store : σ} {now : Instant}
    {counts : StartupCounts} (h : ((Fleet.new settings store).bootstrap now).1 = .ok counts) :
    let g := ((Fleet.new settings store).bootstrap now).2
    ∃ rows, Store.loadAreas g.store = .ok rows ∧
      ((rows.map (·.id)).Nodup → g.areas.Settled rows) := by
  intro g
  obtain ⟨rows, hrows, hsnd, hall⟩ := bootstrap_ok h
  have hg : g = (((Fleet.new settings store).bootstrapAccounts now).registerAll rows).2 := hsnd
  have hwork := sameWork_bootstrapAccounts (Fleet.new settings store) now
  have hordered := ((ordered_new settings store).sameWork hwork).registerAll rows
  refine ⟨rows, by rw [hg, store_registerAll, hrows], fun hnodup => ?_⟩
  have hfind := find?_registerAll hall hnodup
  have hnone (id : Int) :
      ((Fleet.new settings store).bootstrapAccounts now).areas.find? id = none :=
    congrArg (fun as : Areas => as.find? id) hwork.areas
  rw [hg]
  constructor
  case ascending => exact hordered.areas
  case listed =>
    intro id hid
    rw [← Areas.isSome_find?_iff, hfind] at hid
    cases hr : rows.find? (·.id = id) with
    | none => simp [hr, hnone] at hid
    | some r => exact Keyed.isSome_find?_iff.mp (Option.isSome_of_eq_some hr)
  case reads =>
    intro r hr
    have hrow : rows.find? (·.id = r.id) = some r :=
      (Keyed.find?_eq_some_iff (k := AreaRecord.id) hnodup).mpr ⟨hr, rfl⟩
    exact ⟨_, by rw [hfind, hrow], Area.reads_ofDefinition _⟩

theorem settled_reloadAreas (hf : f.Sound) (ho : f.Ordered) {now : Instant} {changes : AreaChanges}
    (h : (f.reloadAreas now).1 = .ok changes) :
    ∃ rows, Store.loadAreas (f.reloadAreas now).2.store = .ok rows ∧
      ((rows.map (·.id)).Nodup → (f.reloadAreas now).2.areas.Settled rows) := by
  cases hrows : Store.loadAreas f.store with
  | error e =>
    rw [reloadAreas, hrows] at h
    cases h
  | ok rows =>
    refine ⟨rows, by rw [store_reloadAreas, hrows], fun hnodup => ?_⟩
    rw [reloadAreas_snd, hrows]
    have hreloaded := areasReloaded_afterRows now hf ho hnodup
    exact ⟨hreloaded.ascending, fun id => (hreloaded.ids id).mp, hreloaded.reads⟩

/-- A startup takes a row when its columns are well formed and its pokemon route has a step, and
reads it as a reload does, which takes malformed columns as empty.  So a reload of a table that was
just loaded changes nothing. -/
theorem startup_and_reload_agree :
    (∀ r : AreaRecord,
      ((∃ d, Definition.strict r = .ok d) ↔ r.WellFormed) ∧
      (∀ d, Definition.strict r = .ok d → Definition.lenient r = d) ∧
      Definition.FromRow r (.lenient r)) ∧
    (∀ (settings : Settings) (store : σ) (now : Instant) (counts : StartupCounts),
      ((Fleet.new settings store).bootstrap now).1 = .ok counts →
      let g := ((Fleet.new settings store).bootstrap now).2
      ∃ rows, Store.loadAreas g.store = .ok rows ∧
        (Numeric rows → ∀ later, g.reloadAreas later = (.ok ⟨[], [], []⟩, g))) ∧
    ∀ (settings : Settings) (store : σ) (events : List (Event σ)) (now : Instant)
      (changes : AreaChanges),
      (((Fleet.new settings store).run events).reloadAreas now).1 = .ok changes →
      let g := (((Fleet.new settings store).run events).reloadAreas now).2
      ∃ rows, Store.loadAreas g.store = .ok rows ∧
        (Numeric rows → ∀ later, g.reloadAreas later = (.ok ⟨[], [], []⟩, g)) := by
  refine ⟨fun r => ⟨?_, fun d => Definition.lenient_of_strict, Definition.fromRow_lenient r⟩, ?_,
    ?_⟩
  · simp only [Definition.strict_eq_ok, exists_and_left, exists_eq, and_true]
  · intro settings store now counts h g
    obtain ⟨rows, hrows, hsettled⟩ := settled_bootstrap h
    exact ⟨rows, hrows, fun hnum => reloadAreas_of_settled hrows (hsettled hnum.distinct) hnum⟩
  · intro settings store events now changes h g
    obtain ⟨rows, hrows, hsettled⟩ := settled_reloadAreas ((sound_new settings store).run events)
      ((ordered_new settings store).run (sound_new settings store) events) h
    exact ⟨rows, hrows, fun hnum => reloadAreas_of_settled hrows (hsettled hnum.distinct) hnum⟩

/-- The table of the small fleet, after a startup and after a reload that came later. -/
theorem startup_and_reload_agree_smallStore :
    let g := ((Fleet.new smallSettings smallStore).bootstrap 0).2
    let later := (((Fleet.new smallSettings smallStore).run
      [.perform .bootstrap .none 0, .perform (.initWorker "w" none) .none 0]).reloadAreas 1).2
    Numeric smallStore.areas ∧
      (((Fleet.new smallSettings smallStore).bootstrap 0).1 = .ok ⟨1, 1⟩ ∧
        g.reloadAreas 1 = (.ok ⟨[], [], []⟩, g)) ∧
      later.reloadAreas 2 = (.ok ⟨[], [], []⟩, later) := by
  intro g later
  have hnum : Numeric smallStore.areas :=
    ⟨by decide, by decide +kernel, by decide +kernel, by decide +kernel⟩
  obtain ⟨-, hstartup, hreload⟩ := startup_and_reload_agree (σ := Tables)
  have hcounts : ((Fleet.new smallSettings smallStore).bootstrap 0).1 = .ok ⟨1, 1⟩ := by
    decide +kernel
  obtain ⟨rows, hrows, hquiet⟩ := hstartup smallSettings smallStore 0 ⟨1, 1⟩ hcounts
  obtain ⟨rows', hrows', hquiet'⟩ := hreload smallSettings smallStore
    [.perform .bootstrap .none 0, .perform (.initWorker "w" none) .none 0] 1 ⟨[], [], []⟩
    (by decide +kernel)
  cases hrows
  cases hrows'
  have hareas : later.store.areas = smallStore.areas := by decide +kernel
  have hnum' : Numeric later.store.areas := by rwa [hareas]
  exact ⟨hnum, ⟨hcounts, hquiet hnum 1⟩, hquiet' hnum' 2⟩

end Fleet

end ScanFleet
