import ScanFleet.Proofs.Fleet.Reconciliation
import ScanFleet.Proofs.Fleet.Sweep

/-! What a sweep settles.  Afterwards stale workers hold parts only where nobody is live to take
them over.  The sweep counts these deserted areas too, although it changes nothing there, and a
second sweep at the same time counts them again and changes nothing at all. -/

namespace ScanFleet

namespace Area

/-- The caches of the area hold nothing that has expired. -/
def Purged (a : Area) (now : Instant) : Prop := ∀ c, a.caches = some c → (c.purge now).2 = c

theorem Purged.purgeCaches {a : Area} {now : Instant} (h : a.Purged now) :
    (a.purgeCaches now).2 = a := by
  unfold Area.purgeCaches
  split
  next => rfl
  next c hc =>
    dsimp only
    rw [h c hc, ← hc]

theorem purged_purgeCaches (a : Area) (now : Instant) : (a.purgeCaches now).2.Purged now := by
  intro c hc
  unfold purgeCaches at hc
  split at hc
  next hnone =>
    rw [hnone] at hc
    cases hc
  next old _ =>
    cases hc
    simp [ScanCaches.purge, Expiring.purge, List.filter_filter]

end Area

namespace Fleet

variable {σ : Type} {f : Fleet σ} {area : Int} {now : Instant}

/-- The areas where a stale worker holds a part and somebody is live to take it over. -/
def relieved (f : Fleet σ) (now : Instant) : List Int :=
  f.areas.ids.filter fun id =>
    f.hasStaleWalk id now && !(f.sessions.liveIn id now f.settings.unseen).isEmpty

/-- The areas where a stale worker holds a part and nobody is live. -/
def deserted (f : Fleet σ) (now : Instant) : List Int :=
  f.areas.ids.filter fun id =>
    f.hasStaleWalk id now && (f.sessions.liveIn id now f.settings.unseen).isEmpty

theorem isEmpty_liveIn : (f.sessions.liveIn area now f.settings.unseen).isEmpty ↔
    f.liveIds area now = [] := by
  rw [List.isEmpty_iff, liveIds, Sessions.liveIds, List.map_eq_nil_iff]

theorem hasStaleWalk_eq_false_iff : f.hasStaleWalk area now = false ↔
    ∀ x ∈ f.sessions.inArea area, x.walk ≠ none → x.isLive now f.settings.unseen := by
  simp [hasStaleWalk, Option.isSome_iff_ne_none]

/-! ### Single steps -/

/-- A cut with a live worker leaves the stale ones without parts. -/
theorem hasStaleWalk_recalculate (hd : f.sessions.Distinct) {r : Route}
    (hr : f.route? area = some r) (hlive : f.liveIds area now ≠ []) :
    (f.recalculate area now).2.hasStaleWalk area now = false := by
  rw [hasStaleWalk_eq_false_iff, recalculate_settings]
  intro y hy hwalk
  obtain ⟨hy, ha⟩ := Sessions.mem_inArea.mp hy
  rw [list_recalculate hd hr hlive] at hy
  obtain ⟨x, hx, rfl⟩ := List.mem_map.mp hy
  split at ha
  next harea =>
    rw [if_pos harea] at hwalk ⊢
    obtain ⟨w, hw⟩ := Option.ne_none_iff_exists'.mp hwalk
    have hmem := (Session.walk_recut hw).1
    rw [Session.isLive, (x.sameButWalk_recut _ _).lastSeen]
    exact ((Sessions.mem_liveIds hd hx).mp hmem).2
  next harea => exact absurd ha harea

/-- A cut that finds nobody live leaves the fleet as it is. -/
theorem recalculate_of_no_live (hd : f.sessions.Distinct) (has : f.areas.Ascending)
    (h : f.liveIds area now = []) : f.recalculate area now = (0, f) := by
  unfold recalculate
  split
  next => rfl
  next a ha =>
    have hcut : f.sessions.partitionRoute (f.workersOf area) a.route.length now f.settings.unseen =
        (0, f.sessions) := Sessions.partitionRoute_eq_self hd h _
    simp only [Area.recalculate, hcut, true_or, if_true, has.replace_self ha]

/-- The caches of an area, if there is one, hold nothing that has expired. -/
def PurgedAt (f : Fleet σ) (area : Int) (now : Instant) : Prop :=
  ∀ a, f.areas.find? area = some a → a.Purged now

theorem purgeCaches_of_purged (has : f.areas.Ascending) (h : f.PurgedAt area now) :
    f.purgeCaches area now = f := by
  unfold purgeCaches
  split
  next => rfl
  next a ha => rw [(h a ha).purgeCaches, has.replace_self ha]

theorem purgedAt_purgeCaches (f : Fleet σ) (area : Int) (now : Instant) :
    (f.purgeCaches area now).PurgedAt area now := by
  intro b hb
  unfold purgeCaches at hb
  split at hb
  next hnone =>
    rw [hnone] at hb
    cases hb
  next a ha =>
    have hid := Areas.id_of_find? ha
    subst hid
    rw [Areas.find?_replace_of_find? ha (a.samePlan_purgeCaches now).id, if_pos rfl] at hb
    cases hb
    exact a.purged_purgeCaches now

theorem PurgedAt.purgeCaches (h : f.PurgedAt area now) (other : Int) :
    (f.purgeCaches other now).PurgedAt area now := by
  by_cases ho : area = other
  · subst ho
    exact f.purgedAt_purgeCaches area now
  · intro b hb
    unfold Fleet.purgeCaches at hb
    split at hb
    next => exact h b hb
    next a ha =>
      have hid := Areas.id_of_find? ha
      subst hid
      rw [Areas.find?_replace_of_find? ha (a.samePlan_purgeCaches now).id, if_neg ho] at hb
      exact h b hb

theorem PurgedAt.recalculate (h : f.PurgedAt area now) (other : Int) :
    (f.recalculate other now).2.PurgedAt area now := by
  obtain ⟨cut, hcut⟩ := find?_recalculate f other now
  intro b hb
  rw [hcut] at hb
  obtain ⟨a, ha, rfl⟩ := Option.map_eq_some_iff.mp hb
  exact h a ha

/-! ### Visits -/

variable {acc : Nat × Fleet σ}

theorem fst_sweepArea (acc : Nat × Fleet σ) (area : Int) (now : Instant) :
    (sweepArea now acc area).1 = acc.1 + if acc.2.hasStaleWalk area now then 1 else 0 := by
  have hcrew := (sameCrew_purgeCaches acc.2 area area now).hasStaleWalk now
  unfold sweepArea
  dsimp only
  rw [hcrew]
  split <;> rfl

theorem purgedAt_sweepArea_self (acc : Nat × Fleet σ) (area : Int) (now : Instant) :
    (sweepArea now acc area).2.PurgedAt area now := by
  have hpurged := acc.2.purgedAt_purgeCaches area now
  rw [sweepArea_snd]
  split
  · exact hpurged.recalculate area
  · exact hpurged

theorem PurgedAt.sweepArea (h : acc.2.PurgedAt area now) (other : Int) :
    (sweepArea now acc other).2.PurgedAt area now := by
  have hpurged := h.purgeCaches other
  rw [sweepArea_snd]
  split
  · exact hpurged.recalculate other
  · exact hpurged

theorem hasStaleWalk_sweepArea_self (hd : acc.2.sessions.Distinct) {r : Route}
    (hr : acc.2.route? area = some r) (hlive : acc.2.liveIds area now ≠ []) :
    (sweepArea now acc area).2.hasStaleWalk area now = false := by
  have hpurge := sameCrew_purgeCaches acc.2 area area now
  obtain ⟨-, hsessions, hroute⟩ := purgeCaches_keeps acc.2 area now
  rw [sweepArea_snd]
  split
  next =>
    refine hasStaleWalk_recalculate (by rw [hsessions]; exact hd) ((hroute area).trans hr) ?_
    rwa [hpurge.liveIds]
  next hstale =>
    rw [hpurge.hasStaleWalk]
    simpa using hstale

theorem areaIds_sweepArea (acc : Nat × Fleet σ) (area : Int) (now : Instant) :
    (sweepArea now acc area).2.areas.ids = acc.2.areas.ids := by
  have hpurge : (acc.2.purgeCaches area now).areas.ids = acc.2.areas.ids := by
    unfold purgeCaches
    split
    · rfl
    · exact Areas.ids_replace _ _
  rw [sweepArea_snd]
  split
  · rw [areaIds_recalculate, hpurge]
  · exact hpurge

/-! ### Sweeps -/

theorem areaIds_sweep (f : Fleet σ) (now : Instant) : (f.sweep now).2.areas.ids = f.areas.ids :=
  List.foldlRecOn (motive := fun acc : Nat × Fleet σ => acc.2.areas.ids = f.areas.ids) _ _ rfl
    fun acc hacc area _ => (areaIds_sweepArea acc area now).trans hacc

theorem purgedAt_foldl (acc : Nat × Fleet σ) {ids : List Int}
    (h : acc.2.PurgedAt area now ∨ area ∈ ids) :
    (ids.foldl (sweepArea now) acc).2.PurgedAt area now := by
  induction ids generalizing acc with
  | nil => exact h.resolve_right List.not_mem_nil
  | cons other ids ih =>
    refine ih _ ?_
    rcases h with h | hmem
    · exact .inl (h.sweepArea other)
    · rcases List.mem_cons.mp hmem with rfl | hmem
      · exact .inl (purgedAt_sweepArea_self acc area now)
      · exact .inr hmem

section

variable [Store σ]

/-- A visit to another area changes nothing about who holds a part in this one. -/
theorem fst_foldl (acc : Nat × Fleet σ) (hf : acc.2.Sound) {ids : List Int} (hids : ids.Nodup) :
    (ids.foldl (sweepArea now) acc).1 = acc.1 + ids.countP (acc.2.hasStaleWalk · now) := by
  induction ids generalizing acc with
  | nil => rfl
  | cons area ids ih =>
    obtain ⟨harea, hids⟩ := List.nodup_cons.mp hids
    have hothers : ids.countP ((sweepArea now acc area).2.hasStaleWalk · now) =
        ids.countP (acc.2.hasStaleWalk · now) := by
      refine List.countP_congr fun other hother => ?_
      have hne : other ≠ area := fun he => harea (he ▸ hother)
      rw [(sameCrew_sweepArea hf.distinct hne now).hasStaleWalk]
    rw [List.foldl_cons, ih _ (sound_sweepArea hf area now) hids, hothers, fst_sweepArea,
      List.countP_cons]
    omega

theorem hasStaleWalk_foldl (acc : Nat × Fleet σ) (hf : acc.2.Sound) {r : Route}
    (hr : acc.2.route? area = some r) (hlive : acc.2.liveIds area now ≠ []) {ids : List Int}
    (hmem : area ∈ ids) : (ids.foldl (sweepArea now) acc).2.hasStaleWalk area now = false := by
  induction ids generalizing acc with
  | nil => cases hmem
  | cons other ids ih =>
    have hf' := sound_sweepArea hf other now
    by_cases he : area = other
    · subst he
      have hclear := hasStaleWalk_sweepArea_self hf.distinct hr hlive
      have hcrew := sameCrew_foldl (sweepArea now acc area) hf' (.inl hclear) ids
      exact (hcrew.hasStaleWalk now).trans hclear
    · have hcrew := sameCrew_sweepArea hf.distinct he now
      exact ih _ hf' ((route?_sweepArea acc other area now).trans hr) (by rwa [hcrew.liveIds])
        ((List.mem_cons.mp hmem).resolve_left he)

/-- After a sweep stale workers hold parts where they did and nobody is live. -/
theorem hasStaleWalk_sweep (hf : f.Sound) (hmem : area ∈ f.areas.ids) :
    (f.sweep now).2.hasStaleWalk area now = (f.hasStaleWalk area now &&
      (f.sessions.liveIn area now f.settings.unseen).isEmpty) := by
  obtain ⟨r, hr⟩ : ∃ r, f.route? area = some r := Option.isSome_iff_exists.mp
    (Areas.route?_isSome_iff.mpr (Areas.isSome_find?_iff.mpr hmem))
  by_cases hlive : f.liveIds area now = []
  · have hcrew := sameCrew_foldl (0, f) hf (.inr hlive) f.areas.ids
    rw [isEmpty_liveIn.mpr hlive, Bool.and_true]
    exact hcrew.hasStaleWalk now
  · rw [Bool.eq_false_iff.mpr fun h => hlive (isEmpty_liveIn.mp h), Bool.and_false]
    exact hasStaleWalk_foldl (0, f) hf hr hlive hmem

end

/-- There is nothing to do for a sweep, except where nobody is live. -/
structure Swept (f : Fleet σ) (now : Instant) : Prop where
  distinct : f.sessions.Distinct
  ascending : f.areas.Ascending
  purged : ∀ id ∈ f.areas.ids, f.PurgedAt id now
  settled : ∀ id ∈ f.areas.ids, f.hasStaleWalk id now → f.liveIds id now = []

namespace Swept

theorem sweepArea (h : f.Swept now) (hmem : area ∈ f.areas.ids) (n : Nat) :
    sweepArea now (n, f) area = (n + if f.hasStaleWalk area now then 1 else 0, f) := by
  have hpurge := purgeCaches_of_purged h.ascending (h.purged area hmem)
  refine Prod.ext (fst_sweepArea (n, f) area now) ?_
  rw [sweepArea_snd]
  dsimp only
  rw [hpurge]
  split
  next hstale => rw [recalculate_of_no_live h.distinct h.ascending (h.settled area hmem hstale)]
  next => rfl

theorem foldl (h : f.Swept now) {ids : List Int} (hids : ids ⊆ f.areas.ids) (n : Nat) :
    ids.foldl (Fleet.sweepArea now) (n, f) = (n + ids.countP (f.hasStaleWalk · now), f) := by
  induction ids generalizing n with
  | nil => rfl
  | cons area ids ih =>
    obtain ⟨hmem, hids⟩ := List.cons_subset.mp hids
    rw [List.foldl_cons, h.sweepArea hmem, ih hids, List.countP_cons, Nat.add_assoc,
      Nat.add_comm (List.countP _ ids)]

theorem sweep (h : f.Swept now) :
    f.sweep now = (f.areas.ids.countP (f.hasStaleWalk · now), f) := by
  rw [Fleet.sweep, h.foldl (List.Subset.refl _), Nat.zero_add]

end Swept

variable [Store σ]

theorem swept_sweep (hf : f.Sound) (ho : f.Ordered) (now : Instant) :
    (f.sweep now).2.Swept now := by
  have hmoves := (quietMoves_sweep f now).moves
  have hids := f.areaIds_sweep now
  constructor
  case distinct => exact (hf.moves hmoves).distinct
  case ascending => exact (ho.moves hf.distinct hmoves).areas
  case purged =>
    intro id hid
    exact purgedAt_foldl (0, f) (.inr (hids ▸ hid))
  case settled =>
    intro id hid hstale
    rw [hasStaleWalk_sweep hf (hids ▸ hid), Bool.and_eq_true, isEmpty_liveIn] at hstale
    exact (liveIds_foldl (0, f) hf f.areas.ids).mpr hstale.2

theorem sweep_sweep (hf : f.Sound) (ho : f.Ordered) (now : Instant) :
    (f.sweep now).2.sweep now = ((f.deserted now).length, (f.sweep now).2) := by
  rw [(swept_sweep hf ho now).sweep, areaIds_sweep, deserted, ← List.countP_eq_length_filter]
  congr 1
  exact List.countP_congr fun id hid => by rw [hasStaleWalk_sweep hf hid]

theorem sweep_fst (hf : f.Sound) (ho : f.Ordered) (now : Instant) :
    (f.sweep now).1 = (f.relieved now).length + (f.deserted now).length := by
  have hcount : (f.sweep now).1 = 0 + f.areas.ids.countP (f.hasStaleWalk · now) :=
    fst_foldl (0, f) hf ho.areas.nodup
  rw [hcount, Nat.zero_add, relieved, deserted, ← List.countP_eq_length_filter,
    ← List.countP_eq_length_filter, List.countP_eq_countP_filter_add f.areas.ids _
      fun id => !(f.sessions.liveIn id now f.settings.unseen).isEmpty, List.countP_filter,
    List.countP_filter]
  simp only [Bool.not_not]

/-- In every state and at every time, a sweep takes the parts from the stale workers of each area
where somebody is live, and the live ones cover its route then.  It changes no session of the areas
where no stale worker holds a part, nor of the deserted ones, which it counts all the same.  A
second sweep counts the deserted areas again and changes nothing. -/
theorem run_sweep_settles (settings : Settings) (store : σ) (events : List (Event σ))
    (now : Instant) :
    let f := (Fleet.new settings store).run events
    let g := (f.sweep now).2
    (∀ id, g.sessions.liveIn id now g.settings.unseen ≠ [] →
      ∀ x ∈ g.sessions.inArea id, x.walk ≠ none → x.isLive now g.settings.unseen) ∧
    (∀ id, (∀ x ∈ f.sessions.inArea id, x.walk ≠ none → x.isLive now f.settings.unseen) →
      g.sessions.inArea id = f.sessions.inArea id) ∧
    (f.sweep now).1 = (f.relieved now).length + (f.deserted now).length ∧
    (∀ id ∈ f.relieved now, ∀ r, f.route? id = some r → g.LiveCovers id now r.length) ∧
    (∀ id ∈ f.deserted now, g.sessions.inArea id = f.sessions.inArea id) ∧
    g.sweep now = ((f.deserted now).length, g) := by
  intro f g
  have hf : f.Sound := (sound_new settings store).run events
  have ho : f.Ordered := (ordered_new settings store).run (sound_new settings store) events
  refine ⟨fun id hlive => ?_, fun id hnone => ?_, sweep_fst hf ho now, fun id hid r hr => ?_,
    fun id hid => ?_, sweep_sweep hf ho now⟩
  · rw [← hasStaleWalk_eq_false_iff, ← Bool.not_eq_true]
    intro hstale
    have hlive' : g.liveIds id now ≠ [] := fun h =>
      hlive (List.isEmpty_iff.mp (isEmpty_liveIn.mpr h))
    by_cases hmem : id ∈ g.areas.ids
    · exact hlive' ((swept_sweep hf ho now).settled id hmem hstale)
    · -- Whoever is bound to an area is bound to a registered one.
      obtain ⟨x, hx, -⟩ := List.any_eq_true.mp hstale
      obtain ⟨hx, ha⟩ := Sessions.mem_inArea.mp hx
      have hreg := ((hf.moves (quietMoves_sweep f now).moves).fits x hx).registered id ha
      exact hmem (Areas.isSome_find?_iff.mp (Areas.route?_isSome_iff.mp hreg))
  · exact (sameCrew_foldl (0, f) hf (.inl (hasStaleWalk_eq_false_iff.mpr hnone)) f.areas.ids).inArea
  · obtain ⟨hmem, hid⟩ := List.mem_filter.mp hid
    obtain ⟨hstale, hlive⟩ := Bool.and_eq_true_iff.mp hid
    refine liveCovers_foldl_of_stale (0, f) hf hr hstale (fun h => ?_) hmem
    rw [isEmpty_liveIn.mpr h] at hlive
    cases hlive
  · have hlive := (Bool.and_eq_true_iff.mp (List.mem_filter.mp hid).2).2
    exact (sameCrew_foldl (0, f) hf (.inr (isEmpty_liveIn.mp hlive)) f.areas.ids).inArea

/-- One area for one worker, as stored. -/
def lonelyStore : Tables :=
  { Tables.empty with areas := [{ (default : AreaRecord) with
      id := 1, pokemonWorkers := 1, pokemonRoute := some "47.0 11.0,47.1 11.1" }] }

/-- The only worker of an area is not seen any more.  Sweeps find nobody to take its part over and
change nothing, and each of them counts the area. -/
theorem sweep_deserted :
    let f := (Fleet.new smallSettings lonelyStore).run
      [.perform .bootstrap .none 1717200000000,
        .perform (.initWorker "w1" none) .none 1717200000000]
    let g := (f.sweep 1717200301000).2
    f.sessions.liveIn 1 1717200301000 f.settings.unseen = [] ∧
      g.sessions = f.sessions ∧ (f.sweep 1717200301000).1 = 1 ∧
      (g.sweep 1717200301000).1 = 1 := by
  decide +kernel

end Fleet

end ScanFleet
