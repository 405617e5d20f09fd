import ScanFleet.Proofs.Fleet.Coverage

/-! Sweeps.  A sweep visits the areas one by one, and what it does in one is left alone by its
visits to the others.  Where a stale worker holds a part it cuts the route anew, which then is
covered by live workers; elsewhere whoever holds a part is live, so the route is covered when it
was before. -/

namespace ScanFleet.Fleet

variable {σ : Type} {f : Fleet σ} {area other : Int} {now : Instant} {r : Route}

theorem purgeCaches_keeps (f : Fleet σ) (area : Int) (now : Instant) :
    (f.purgeCaches area now).settings = f.settings ∧
      (f.purgeCaches area now).sessions = f.sessions ∧
      ∀ id, (f.purgeCaches area now).route? id = f.route? id := by
  unfold purgeCaches
  split
  next => exact ⟨rfl, rfl, fun _ => rfl⟩
  next a ha =>
    have he := Areas.id_of_find? ha
    subst he
    exact ⟨rfl, rfl, Areas.route?_replace ha (a.samePlan_purgeCaches now)⟩

/-- Two fleets with the same workers of an area, over the same settings. -/
structure SameCrew (f g : Fleet σ) (area : Int) : Prop where
  settings : g.settings = f.settings
  inArea : g.sessions.inArea area = f.sessions.inArea area

namespace SameCrew

variable {g h : Fleet σ}

theorem refl (f : Fleet σ) (area : Int) : SameCrew f f area := ⟨rfl, rfl⟩

theorem trans (h1 : SameCrew f g area) (h2 : SameCrew g h area) : SameCrew f h area :=
  ⟨h2.settings.trans h1.settings, h2.inArea.trans h1.inArea⟩

theorem hasStaleWalk (h : SameCrew f g area) (now : Instant) :
    g.hasStaleWalk area now = f.hasStaleWalk area now := by
  rw [Fleet.hasStaleWalk, h.inArea, h.settings]
  rfl

theorem liveIds (h : SameCrew f g area) (now : Instant) :
    g.liveIds area now = f.liveIds area now := by
  rw [Fleet.liveIds, Sessions.liveIds, Sessions.liveIn, h.inArea, h.settings]
  rfl

theorem liveCovers (h : SameCrew f g area) {steps : Nat} (hf : f.LiveCovers area now steps) :
    g.LiveCovers area now steps := by
  rw [LiveCovers, Sessions.liveIn, h.inArea, h.settings]
  exact hf

end SameCrew

theorem sameCrew_purgeCaches (f : Fleet σ) (other area : Int) (now : Instant) :
    SameCrew f (f.purgeCaches other now) area := by
  obtain ⟨hset, hsessions, -⟩ := purgeCaches_keeps f other now
  exact ⟨hset, by rw [hsessions]⟩

theorem sameCrew_recalculate (hd : f.sessions.Distinct) (h : area ≠ other) (now : Instant) :
    SameCrew f (f.recalculate other now).2 area :=
  ⟨recalculate_settings f other now, inArea_recalculate hd h now⟩

/-! ### One area -/

/-- What a visit to one area does: it cuts the route when a stale worker holds a part. -/
theorem sweepArea_snd (acc : Nat × Fleet σ) (area : Int) (now : Instant) :
    (sweepArea now acc area).2 =
      if acc.2.hasStaleWalk area now then ((acc.2.purgeCaches area now).recalculate area now).2
      else acc.2.purgeCaches area now := by
  have hcrew := (sameCrew_purgeCaches acc.2 area area now).hasStaleWalk now
  unfold sweepArea
  dsimp only
  rw [hcrew]
  split <;> rfl

variable {acc : Nat × Fleet σ}

theorem sameCrew_sweepArea (hd : acc.2.sessions.Distinct) (h : area ≠ other) (now : Instant) :
    SameCrew acc.2 (sweepArea now acc other).2 area := by
  have hpurge := sameCrew_purgeCaches acc.2 other area now
  rw [sweepArea_snd]
  split
  · refine hpurge.trans (sameCrew_recalculate ?_ h now)
    rw [(purgeCaches_keeps acc.2 other now).2.1]
    exact hd
  · exact hpurge

/-- Without a stale worker that holds a part, or without a live one, the workers stay as they
are. -/
theorem sameCrew_sweepArea_self (hd : acc.2.sessions.Distinct)
    (h : acc.2.hasStaleWalk area now = false ∨ acc.2.liveIds area now = []) :
    SameCrew acc.2 (sweepArea now acc area).2 area := by
  have hpurge := sameCrew_purgeCaches acc.2 area area now
  obtain ⟨-, hsessions, -⟩ := purgeCaches_keeps acc.2 area now
  rw [sweepArea_snd]
  split
  next hstale =>
    have hlive : (acc.2.purgeCaches area now).liveIds area now = [] := by
      rw [hpurge.liveIds]
      exact h.resolve_left (by simp [hstale])
    have hself := sessions_recalculate_eq_self (by rw [hsessions]; exact hd) (.inr hlive)
    exact hpurge.trans ⟨recalculate_settings _ _ _, by rw [hself]⟩
  next => exact hpurge

theorem liveCovers_sweepArea_self (hd : acc.2.sessions.Distinct) (hr : acc.2.route? area = some r)
    (hstale : acc.2.hasStaleWalk area now) (hlive : acc.2.liveIds area now ≠ []) :
    (sweepArea now acc area).2.LiveCovers area now r.length := by
  obtain ⟨-, hsessions, hroute⟩ := purgeCaches_keeps acc.2 area now
  rw [sweepArea_snd, if_pos hstale]
  refine liveCovers_recalculate_of_live (by rw [hsessions]; exact hd) ((hroute area).trans hr) ?_
  rwa [(sameCrew_purgeCaches acc.2 area area now).liveIds]

theorem liveCovers_sweepArea (hd : acc.2.sessions.Distinct) (hr : acc.2.route? area = some r)
    (h : acc.2.LiveCovers area now r.length) (other : Int) :
    (sweepArea now acc other).2.LiveCovers area now r.length := by
  obtain ⟨-, hsessions, hroute⟩ := purgeCaches_keeps acc.2 other now
  have hpurge := (sameCrew_purgeCaches acc.2 other area now).liveCovers h
  rw [sweepArea_snd]
  split
  · exact liveCovers_recalculate (by rw [hsessions]; exact hd) ((hroute area).trans hr) hpurge other
  · exact hpurge

/-! ### All areas -/

section

variable [Store σ]

theorem sound_sweepArea (hf : acc.2.Sound) (other : Int) (now : Instant) :
    (sweepArea now acc other).2.Sound :=
  hf.moves (quietMoves_sweepArea now acc other).moves

theorem route?_sweepArea (acc : Nat × Fleet σ) (other area : Int) (now : Instant) :
    (sweepArea now acc other).2.route? area = acc.2.route? area :=
  (quietMoves_sweepArea now acc other).moves.route? area

theorem sameCrew_foldl (acc : Nat × Fleet σ) (hf : acc.2.Sound)
    (h : acc.2.hasStaleWalk area now = false ∨ acc.2.liveIds area now = []) (ids : List Int) :
    SameCrew acc.2 (ids.foldl (sweepArea now) acc).2 area := by
  induction ids generalizing acc with
  | nil => exact .refl _ _
  | cons other ids ih =>
    have hcrew : SameCrew acc.2 (sweepArea now acc other).2 area := by
      by_cases he : area = other
      · subst he
        exact sameCrew_sweepArea_self hf.distinct h
      · exact sameCrew_sweepArea hf.distinct he now
    have hnext := h.imp (hcrew.hasStaleWalk now).trans (hcrew.liveIds now).trans
    exact hcrew.trans (ih _ (sound_sweepArea hf other now) hnext)

theorem liveCovers_foldl (acc : Nat × Fleet σ) (hf : acc.2.Sound) (hr : acc.2.route? area = some r)
    (h : acc.2.LiveCovers area now r.length) (ids : List Int) :
    (ids.foldl (sweepArea now) acc).2.LiveCovers area now r.length := by
  induction ids generalizing acc with
  | nil => exact h
  | cons other ids ih =>
    exact ih _ (sound_sweepArea hf other now) ((route?_sweepArea acc other area now).trans hr)
      (liveCovers_sweepArea hf.distinct hr h other)

theorem liveCovers_foldl_of_stale (acc : Nat × Fleet σ) (hf : acc.2.Sound)
    (hr : acc.2.route? area = some r) (hstale : acc.2.hasStaleWalk area now)
    (hlive : acc.2.liveIds area now ≠ []) {ids : List Int} (hmem : area ∈ ids) :
    (ids.foldl (sweepArea now) acc).2.LiveCovers area now r.length := by
  induction ids generalizing acc with
  | nil => cases hmem
  | cons other ids ih =>
    have hf' := sound_sweepArea hf other now
    have hr' := (route?_sweepArea acc other area now).trans hr
    by_cases he : area = other
    · subst he
      exact liveCovers_foldl _ hf' hr' (liveCovers_sweepArea_self hf.distinct hr hstale hlive) ids
    · have hcrew := sameCrew_sweepArea hf.distinct he now
      exact ih _ hf' hr' (by rwa [hcrew.hasStaleWalk]) (by rwa [hcrew.liveIds])
        ((List.mem_cons.mp hmem).resolve_left he)

theorem liveIds_foldl (acc : Nat × Fleet σ) (hf : acc.2.Sound) (ids : List Int) :
    (ids.foldl (sweepArea now) acc).2.liveIds area now = [] ↔ acc.2.liveIds area now = [] := by
  induction ids generalizing acc with
  | nil => rfl
  | cons other ids ih =>
    refine (ih _ (sound_sweepArea hf other now)).trans ?_
    obtain ⟨-, hsessions, -⟩ := purgeCaches_keeps acc.2 other now
    have hpurge := (sameCrew_purgeCaches acc.2 other area now).liveIds now
    rw [sweepArea_snd]
    split
    · rw [liveIds_recalculate (by rw [hsessions]; exact hf.distinct), hpurge]
    · rw [hpurge]

/-- A live worker of an area holds a part. -/
def HasLiveWalk (f : Fleet σ) (area : Int) (now : Instant) : Prop :=
  ∃ x ∈ f.sessions.liveIn area now f.settings.unseen, x.walk.isSome

instance (f : Fleet σ) (area : Int) (now : Instant) : Decidable (f.HasLiveWalk area now) := by
  unfold HasLiveWalk
  infer_instance

/-- After a sweep in which some live worker of an area holds a part, its route is covered by live
workers exactly when a stale worker held a part before or the parts of all workers covered it. -/
theorem liveCovers_sweep_iff (hf : f.Sound) (hr : f.route? area = some r)
    (hholder : (f.sweep now).2.HasLiveWalk area now) :
    (f.sweep now).2.LiveCovers area now r.length ↔
      f.hasStaleWalk area now ∨ ∀ k < r.length, ∃ x ∈ f.sessions.list, x.Covers area k := by
  have hlive : f.liveIds area now ≠ [] := fun hnil => by
    obtain ⟨x, hx, -⟩ := hholder
    have hnone := (liveIds_foldl (0, f) hf f.areas.ids).mpr hnil
    exact List.ne_nil_of_mem (List.mem_map_of_mem hx) hnone
  have hmem : area ∈ f.areas.ids := by
    rw [← Areas.isSome_find?_iff, ← Areas.route?_isSome_iff]
    exact Option.isSome_of_eq_some hr
  cases hstale : f.hasStaleWalk area now with
  | true =>
    have hcovers := liveCovers_foldl_of_stale (0, f) hf hr hstale hlive hmem
    exact ⟨fun _ => .inl rfl, fun _ => hcovers⟩
  | false =>
    have hcrew := sameCrew_foldl (0, f) hf (.inl hstale) f.areas.ids
    rw [LiveCovers, sweep, Sessions.liveIn, hcrew.inArea, hcrew.settings]
    refine ⟨fun h => .inr fun k hk => ?_, fun h k hk => ?_⟩
    · obtain ⟨x, hx, hc⟩ := h k hk
      exact ⟨x, (Sessions.mem_inArea.mp (List.mem_of_mem_filter hx)).1, hc⟩
    · obtain ⟨x, hx, hc⟩ := (h.resolve_left (by simp)) k hk
      have hin := Sessions.mem_inArea.mpr ⟨hx, hc.1⟩
      -- Whoever holds a part is live, because no stale worker does.
      have hnot := List.any_eq_false.mp hstale x hin
      refine ⟨x, List.mem_filter.mpr ⟨hin, ?_⟩, hc⟩
      simpa [hc.holds.2] using hnot

/-- Without a gap before a sweep, the route is covered by live workers after it. -/
theorem liveCovers_sweep (hf : f.Sound) (hr : f.route? area = some r)
    (hholder : (f.sweep now).2.HasLiveWalk area now)
    (h : Gapless f.sessions.list area r.length) :
    (f.sweep now).2.LiveCovers area now r.length := by
  rw [liveCovers_sweep_iff hf hr hholder]
  cases hstale : f.hasStaleWalk area now with
  | true => exact .inl rfl
  | false =>
    obtain ⟨x, hx, hw⟩ := hholder
    have hcrew := sameCrew_foldl (0, f) hf (.inl hstale) f.areas.ids
    rw [sweep, Sessions.liveIn, hcrew.inArea] at hx
    obtain ⟨hmem, ha⟩ := Sessions.mem_inArea.mp (List.mem_of_mem_filter hx)
    exact .inr (h ⟨x, hmem, ha, hw⟩)

/-- A sweep after a run over fixed areas that began without a session.  Where a live worker holds a
part then, the route is covered by live workers exactly when a stale worker held a part before the
sweep or no step was missing; and it is covered if no logout of the run abandoned its parts. -/
theorem run_sweep (settings : Settings) (store : σ) (before events : List (Event σ))
    (hbefore : ((Fleet.new settings store).run before).sessions.list = [])
    (hkeep : ∀ e ∈ events, e.KeepsAreas) :
    let start := (Fleet.new settings store).run before
    let f := start.run events
    ∀ (now : Instant) (area : Int) (r : Route), f.route? area = some r →
      (f.sweep now).2.HasLiveWalk area now →
      ((f.sweep now).2.LiveCovers area now r.length ↔
        f.hasStaleWalk area now ∨ ∀ k < r.length, ∃ x ∈ f.sessions.list, x.Covers area k) ∧
      (Along (fun f e => f.abandoned e ≠ some area) start events →
        (f.sweep now).2.LiveCovers area now r.length) := by
  intro start f now area r hr hholder
  have hstart : start.Sound := sound_empty hbefore
  have hf : f.Sound := hstart.run events
  refine ⟨liveCovers_sweep_iff hf hr hholder, fun habandoned => ?_⟩
  have hroute : start.route? area = some r := (route?_run hkeep area).symm.trans hr
  refine liveCovers_sweep hf hr hholder (gapless_run hstart hkeep habandoned hroute ?_)
  exact .of_no_holder fun x hx => by rw [hbefore] at hx; cases hx

/-- Two workers share the route of the small fleet; later there is some more to do. -/
def sharedRoute (later : List Operation) : List (Event Tables) :=
  ([.initWorker "w1" none, .initWorker "w2" none].map fun op => .perform op .none 0) ++
    later.map fun op => .perform op .none 400000

def startup : List (Event Tables) := [.perform .bootstrap .none 0]

/-- The first worker is seen before the second one logs out, and takes over the whole route. -/
theorem run_sweep_seen :
    let start := (Fleet.new smallSettings smallStore).run startup
    let events := sharedRoute [.heartbeat "w1" none, .logout "w2"]
    let f := start.run events
    start.sessions.list = [] ∧ (∀ e ∈ events, e.KeepsAreas) ∧
      ∃ r, f.route? 1 = some r ∧ r.length = 4 ∧ (f.sweep 400000).2.HasLiveWalk 1 400000 ∧
        Along (fun f e => f.abandoned e ≠ some 1) start events ∧
        (f.sweep 400000).2.LiveCovers 1 400000 r.length := by
  intro start events f
  have hbefore : start.sessions.list = [] := by decide +kernel
  have hkeep : ∀ e ∈ events, e.KeepsAreas := by simp [events, sharedRoute, Event.KeepsAreas]
  have hroute : (f.route? 1).map List.length = some 4 := by decide +kernel
  have hholder : (f.sweep 400000).2.HasLiveWalk 1 400000 := by decide +kernel
  have habandoned : Along (fun f e => f.abandoned e ≠ some 1) start events := by decide +kernel
  obtain ⟨r, hr, hlen⟩ := Option.map_eq_some_iff.mp hroute
  exact ⟨hbefore, hkeep, r, hr, hlen, hholder, habandoned, (run_sweep smallSettings smallStore
    startup events hbefore hkeep 400000 1 r hr hholder).2 habandoned⟩

/-- The first worker is stale when the second one logs out and is seen again after that.  It is live
at the sweep and holds a part, but not all of the route. -/
theorem run_sweep_gap :
    let start := (Fleet.new smallSettings smallStore).run startup
    let events := sharedRoute [.logout "w2", .heartbeat "w1" none]
    let f := start.run events
    start.sessions.list = [] ∧ (∀ e ∈ events, e.KeepsAreas) ∧
      (f.route? 1).map List.length = some 4 ∧ (f.sweep 400000).2.HasLiveWalk 1 400000 ∧
      ¬ (f.sweep 400000).2.LiveCovers 1 400000 4 := by
  intro start events f
  have hkeep : ∀ e ∈ events, e.KeepsAreas := by simp [events, sharedRoute, Event.KeepsAreas]
  have hbefore : start.sessions.list = [] := by decide +kernel
  have hroute : (f.route? 1).map List.length = some 4 := by decide +kernel
  have hholder : (f.sweep 400000).2.HasLiveWalk 1 400000 := by decide +kernel
  have hgap : ¬ (f.sweep 400000).2.LiveCovers 1 400000 4 := by decide +kernel
  exact ⟨hbefore, hkeep, hroute, hholder, hgap⟩

end

end ScanFleet.Fleet
