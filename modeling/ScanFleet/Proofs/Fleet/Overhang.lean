import ScanFleet.Proofs.Fleet.Run

/-! Parts that reach beyond the route.  A cut with a live worker gives out parts of the route, and
no move makes a part longer or a route shorter.  So parts lie on their routes, unless a load of
areas strands them: a reload does so when it shortens the route of an area whose workers are all
stale, because nothing is cut then, and a startup in the course of a run may do so, because it cuts
nothing. -/

namespace ScanFleet.Fleet

variable {σ : Type}

/-- A worker of an area holds a part that ends beyond the area's route. -/
def Overhang (f : Fleet σ) (area : Int) : Prop :=
  ∃ x ∈ f.sessions.list, x.area = some area ∧
    ∃ w ∈ x.walk, ∃ r ∈ f.route? area, r.length ≤ w.part.last

instance (f : Fleet σ) : DecidablePred f.Overhang := fun area => by
  unfold Overhang
  infer_instance

theorem not_overhang_of_no_session {f : Fleet σ} (h : f.sessions.list = []) (area : Int) :
    ¬ f.Overhang area := by
  simp [Overhang, h]

theorem mem_ids_of_overhang {f : Fleet σ} {area : Int} (h : f.Overhang area) :
    area ∈ f.areas.ids := by
  obtain ⟨-, -, -, -, -, r, hr, -⟩ := h
  rw [← Areas.isSome_find?_iff, ← Areas.route?_isSome_iff]
  exact Option.isSome_of_eq_some hr

theorem Overhang.of_subset {f g : Fleet σ} {area : Int} (h : g.Overhang area)
    (hlist : ∀ x ∈ g.sessions.list, x.area = some area → x ∈ f.sessions.list)
    (hroute : g.route? area = f.route? area) : f.Overhang area := by
  obtain ⟨x, hx, ha, hw⟩ := h
  rw [hroute] at hw
  exact ⟨x, hlist x hx ha, ha, hw⟩

theorem SessionMove.overhang {f : Fleet σ} {now : Instant} {l : List Session}
    (h : SessionMove f now l) (hf : f.Sound) {area : Int} {r : Route}
    (hr : f.route? area = some r) {y : Session} (hy : y ∈ l) (ha : y.area = some area) {w : Walk}
    (hw : y.walk = some w) (hlast : r.length ≤ w.part.last) : f.Overhang area := by
  have stays : y ∈ f.sessions.list → f.Overhang area := fun hmem =>
    ⟨y, hmem, ha, w, hw, r, hr, hlast⟩
  cases h with
  | keep hk hnew =>
    rcases List.mem_append.mp hy with hy | hy
    · obtain ⟨x, hx, rfl⟩ := List.mem_map.mp hy
      rw [(hk x).area] at ha
      rw [(hk x).walk] at hw
      exact ⟨x, hx, ha, w, hw, r, hr, hlast⟩
    · rw [(hnew y hy).1] at ha
      cases ha
  | settle harea hnone =>
    obtain ⟨x, hx, rfl⟩ := List.mem_map.mp hy
    split at hw
    next he =>
      -- Whoever settles has no walk.
      have hnot := ((hf.fits x hx).bindArea harea
        (hnone x ((Sessions.find?_eq_some_iff hf.distinct).mpr ⟨hx, he⟩))).1
      exact absurd (hnot.symm.trans hw) (by simp)
    next he => rw [if_neg he] at stays; exact stays hx
  | recut hr' hlive =>
    obtain ⟨x, hx, rfl⟩ := List.mem_map.mp hy
    split at hw
    next he =>
      rw [if_pos he, (x.sameButWalk_recut _ _).area, he] at ha
      cases ha
      rw [hr'] at hr
      cases hr
      have hlt := (Session.walk_recut hw).2.2.2
      omega
    next he => rw [if_neg he] at stays; exact stays hx
  | advance worker =>
    obtain ⟨x, hx, rfl⟩ := List.mem_map.mp hy
    split at hw
    next he =>
      rw [if_pos he] at ha
      obtain ⟨v, hv, rfl⟩ := Option.map_eq_some_iff.mp hw
      exact ⟨x, hx, ha, v, hv, r, hr, hlast⟩
    next he => rw [if_neg he] at stays; exact stays hx

/-! ### Cuts and reconciliations -/

section

variable {f : Fleet σ} {now : Instant} {area : Int}

theorem not_overhang_recalculate (hd : f.sessions.Distinct) (hlive : f.liveIds area now ≠ []) :
    ¬ (f.recalculate area now).2.Overhang area := by
  rintro ⟨y, hy, ha, w, hw, r, hr, hlast⟩
  rw [Option.mem_def, route?_recalculate] at hr
  rw [list_recalculate hd hr hlive] at hy
  obtain ⟨x, hx, rfl⟩ := List.mem_map.mp hy
  by_cases he : x.area = some area
  · rw [if_pos he] at hw
    have hlt := (Session.walk_recut hw).2.2.2
    omega
  · rw [if_neg he] at ha
    exact he ha

theorem mem_of_mem_reconcile (hd : f.sessions.Distinct) {rows : List AreaRecord} {y : Session}
    (hy : y ∈ (f.reconcile rows).sessions.list) (ha : y.area = some area) :
    y ∈ f.sessions.list := by
  rw [list_reconcile hd] at hy
  obtain ⟨x, hx, rfl⟩ := List.mem_map.mp hy
  unfold unbound at ha ⊢
  split at ha
  next => cases ha
  next h => rwa [if_neg h]

theorem liveIds_reconcile (hd : f.sessions.Distinct) {rows : List AreaRecord}
    (hreg : ((f.reconcile rows).route? area).isSome) (hlive : f.liveIds area now ≠ []) :
    (f.reconcile rows).liveIds area now ≠ [] := by
  rw [route?, Areas.route?_isSome_iff, (reconcile_keeps f rows).2.2] at hreg
  rw [Ne, liveIds, Sessions.liveIds_eq_nil_iff] at hlive ⊢
  rw [list_reconcile hd, (reconcile_keeps f rows).1]
  intro hstale
  refine hlive fun x hx ha hl => hstale x ?_ ha hl
  refine List.mem_map.mpr ⟨x, hx, if_neg ?_⟩
  rintro ⟨other, hother, he⟩
  rw [ha] at he
  cases he
  exact Areas.not_mem_removed f.areas _ hreg hother

end

/-! ### Moves and loads -/

section

variable [Store σ] {f g : Fleet σ} {now : Instant} {area : Int}

theorem Move.overhang (hm : Move now f g) (hf : f.Sound) (h : g.Overhang area) :
    f.Overhang area := by
  obtain ⟨y, hy, ha, w, hw, r, hr, hlast⟩ := h
  rw [hm.route?] at hr
  exact (hm.sessionMove hf.distinct).overhang hf hr hy ha hw hlast

theorem Moves.not_overhang (hm : Moves now f g) (hf : f.Sound) (h : ¬ f.Overhang area) :
    ¬ g.Overhang area :=
  (hm.keep (P := fun g => g.Sound ∧ ¬ g.Overhang area)
    (fun h hm => ⟨h.1.move hm, fun ho => h.2 (hm.overhang h.1 ho)⟩) ⟨hf, h⟩).2

theorem not_overhang_recalculateAll (hf : f.Sound) {areas : List Int} (hmem : area ∈ areas)
    (hlive : f.liveIds area now ≠ []) : ¬ (f.recalculateAll areas now).Overhang area := by
  induction areas generalizing f with
  | nil => cases hmem
  | cons other areas ih =>
    have hcut : (f.recalculate other now).2.Sound := hf.move (.quiet (.recut f other))
    rcases List.mem_cons.mp hmem with rfl | hmem
    · exact (quietMoves_recalculateAll _ areas now).moves.not_overhang hcut
        (not_overhang_recalculate hf.distinct hlive)
    · exact ih hcut hmem (by rw [liveIds_recalculate hf.distinct other]; exact hlive)

/-- After the cuts of a reload parts overhang only where no worker was live. -/
theorem not_overhang_reload (hf : f.Sound) (h : ¬ f.Overhang area)
    (hlive : f.liveIds area now ≠ []) (rows : List AreaRecord) :
    ¬ ((f.reconcile rows).recalculateAll (f.affected rows) now).Overhang area := by
  have hrec := hf.reconcile rows
  have hmoves := (quietMoves_recalculateAll (f.reconcile rows) (f.affected rows) now).moves
  intro ho
  have hreg : ((f.reconcile rows).route? area).isSome := by
    obtain ⟨-, -, -, -, -, r, hr, -⟩ := ho
    rw [Option.mem_def, hmoves.route?] at hr
    exact Option.isSome_of_eq_some hr
  by_cases hmem : area ∈ f.affected rows
  · exact not_overhang_recalculateAll hrec hmem (liveIds_reconcile hf.distinct hreg hlive) ho
  · -- The route of the area is as it was, and so are its workers until the cuts.
    refine hmoves.not_overhang hrec (fun ho => h ?_) ho
    refine ho.of_subset (fun x hx ha => mem_of_mem_reconcile hf.distinct hx ha) ?_
    obtain ⟨b, hb⟩ := Option.isSome_iff_exists.mp (Areas.route?_isSome_iff.mp hreg)
    have hb' := hb
    rw [(reconcile_keeps f rows).2.2] at hb'
    obtain ⟨a, ha, he⟩ := Areas.route_apply f.areas _ hb' hmem
    simp [route?, Areas.route?, hb, ha, he]

/-- The areas whose parts an event strands: a reload those without a live worker where a part
overhangs after it, and a startup all those where one does. -/
def stranded (f : Fleet σ) : Event σ → List Int
  | .perform .reloadAreas _ now =>
    (f.reloadAreas now).2.areas.ids.filter fun area =>
      f.liveIds area now = [] ∧ (f.reloadAreas now).2.Overhang area
  | .perform .bootstrap _ now => (f.bootstrap now).2.areas.ids.filter (f.bootstrap now).2.Overhang
  | _ => []

theorem not_overhang_after (hf : f.Sound) (h : ∀ area, ¬ f.Overhang area) {e : Event σ}
    (he : f.stranded e = []) : ¬ (f.after e).Overhang area := by
  have hout := f.outcome e
  generalize f.after e = g at hout ⊢
  cases hout with
  | moves _ hm => exact hm.not_overhang hf (h area)
  | @logout worker s services now hs =>
    refine (quietMoves_logout hs now).moves.not_overhang (hf.forget s now) fun ho => h area ?_
    have hwork := sameWork_forget f s now
    refine ho.of_subset (fun x hx _ => ?_) (hwork.route? area)
    rw [hwork.sessions] at hx
    exact (Sessions.mem_remove.mp hx).1
  | load hwork hpool =>
    refine fun ho => h area (ho.of_subset (fun x hx _ => ?_) (hwork.route? area))
    rwa [hwork.sessions] at hx
  | startup =>
    intro ho
    have hnone := List.filter_eq_nil_iff.mp he area (mem_ids_of_overhang ho)
    exact hnone (decide_eq_true ho)
  | @reload rows services now hrows =>
    intro ho
    by_cases hlive : f.liveIds area now = []
    · have hnone := List.filter_eq_nil_iff.mp he area (mem_ids_of_overhang ho)
      exact hnone (decide_eq_true ⟨hlive, ho⟩)
    · rw [hrows] at ho
      exact not_overhang_reload hf (h area) hlive rows ho

/-- In a run that strands nothing, no part ever overhangs. -/
theorem not_overhang_run (settings : Settings) (store : σ) {events : List (Event σ)}
    (h : Along (fun f e => f.stranded e = []) (Fleet.new settings store) events) :
    ∀ area, ¬ ((Fleet.new settings store).run events).Overhang area :=
  (run_keeps (I := fun f => f.Sound ∧ ∀ area, ¬ f.Overhang area)
    (fun _ e hf he => ⟨hf.1.after e, fun _ => not_overhang_after hf.1 hf.2 he⟩)
    ⟨sound_new settings store, not_overhang_of_no_session rfl⟩ h).2

end

end ScanFleet.Fleet
