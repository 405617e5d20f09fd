import ScanFleet.Fleet.View
import ScanFleet.Proofs.Fleet.Reconciliation

/-! The sessions of a fleet in every state.  The steps that a session shows are in order, and all
zero when it holds no part of a route; it holds a part only in the area that it is bound to, and
that area is registered.  No number is given to two sessions, so the workers of an area are listed
once each, in the order in which their sessions were created. -/

namespace ScanFleet

/-! ### The steps that a session shows -/

namespace Session

/-- The step that comes next is kept when it lies in the new part, also that of a session without a
part, which shows step zero. -/
theorem bounds_assign (x : Session) (p : Part) :
    (x.assign p).bounds =
      (p.start, p.last, if p.contains x.bounds.2.2 then x.bounds.2.2 else p.start) := by
  rw [assign_eq]
  cases hw : x.walk <;> simp [bounds, step, hw]

theorem bounds_advance (x : Session) :
    x.advance.bounds = (x.bounds.1, x.bounds.2.1,
      if x.bounds.2.1 ≤ x.bounds.2.2 then x.bounds.1 else x.bounds.2.2 + 1) := by
  cases hw : x.walk with
  | some w => simp [bounds, advance, Walk.advance, hw]
  | none => simp [bounds, advance, hw]

theorem bounds_of_walk_eq_none {x : Session} (h : x.walk = none) : x.bounds = (0, 0, 0) := by
  simp [bounds, h]

theorem bounds_ordered {x : Session} (h : ∀ w, x.walk = some w → w.Within) :
    x.bounds.1 ≤ x.bounds.2.2 ∧ x.bounds.2.2 ≤ x.bounds.2.1 := by
  cases hw : x.walk with
  | some w =>
    obtain ⟨hlow, hhigh⟩ := h w hw
    simp only [bounds, hw]
    exact ⟨hlow, hhigh⟩
  | none => simp [bounds_of_walk_eq_none hw]

end Session

/-! ### Numbers of sessions -/

namespace Sessions

/-- Every session of `t` is one of `s`, or has a number that was not given yet. -/
structure Succeeds (s t : Sessions) : Prop where
  next : s.next ≤ t.next
  session : ∀ y ∈ t.list, (∃ x ∈ s.list, x.id = y.id ∧ x.seq = y.seq) ∨ s.next ≤ y.seq

namespace Succeeds

variable {s t u : Sessions}

theorem map {k : Session → Session} (hid : ∀ x, (k x).id = x.id) (hseq : ∀ x, (k x).seq = x.seq)
    (hlist : t.list = s.list.map k) (hnext : t.next = s.next) : s.Succeeds t := by
  refine ⟨Nat.le_of_eq hnext.symm, fun y hy => ?_⟩
  rw [hlist] at hy
  obtain ⟨x, hx, rfl⟩ := List.mem_map.mp hy
  exact .inl ⟨x, hx, (hid x).symm, (hseq x).symm⟩

theorem of_eq (h : t = s) : s.Succeeds t :=
  map (k := id) (fun _ => rfl) (fun _ => rfl) (by rw [h, List.map_id]) (by rw [h])

theorem trans (h : s.Succeeds t) (h' : t.Succeeds u) : s.Succeeds u := by
  refine ⟨Nat.le_trans h.next h'.next, fun z hz => ?_⟩
  rcases h'.session z hz with ⟨y, hy, hid, hseq⟩ | hnew
  · rw [← hid, ← hseq]
    exact h.session y hy
  · exact .inr (Nat.le_trans h.next hnew)

theorem modify {k : Session → Session} (hid : ∀ x, (k x).id = x.id)
    (hseq : ∀ x, (k x).seq = x.seq) (s : Sessions) (worker : String) :
    s.Succeeds (s.modify worker k) := by
  refine map (k := fun x => if x.id = worker then k x else x) ?_ ?_ rfl rfl
  · intro x
    split
    · exact hid x
    · rfl
  · intro x
    split
    · exact hseq x
    · rfl

theorem remove (s : Sessions) (worker : String) : s.Succeeds (s.remove worker) :=
  ⟨Nat.le_refl _, fun y hy => .inl ⟨y, (mem_remove.mp hy).1, rfl, rfl⟩⟩

theorem ensure (s : Sessions) (worker : String) (now : Instant) :
    s.Succeeds (s.ensure worker now) := by
  unfold Sessions.ensure
  split
  · exact of_eq rfl
  · refine ⟨Nat.le_succ _, fun y hy => ?_⟩
    rcases List.mem_append.mp hy with hy | hy
    · exact .inl ⟨y, hy, rfl, rfl⟩
    · rw [List.mem_singleton.mp hy]
      exact .inr (Nat.le_refl _)

theorem touch (s : Sessions) (worker : String) (host : Option String) (now : Instant) :
    s.Succeeds (s.touch worker host now) :=
  (ensure s worker now).trans (modify (by intro; rfl) (by intro; rfl) _ _)

end Succeeds

end Sessions

namespace Fleet

variable {σ : Type} [Store σ] {f g : Fleet σ} {now : Instant}

/-! ### What an event makes of the numbers -/

theorem Move.succeeds (h : Move now f g) (hd : f.sessions.Distinct) :
    f.sessions.Succeeds g.sessions := by
  cases h with
  | quiet h =>
    cases h with
    | note h => exact .of_eq h.sessions
    | touch worker host => exact .touch _ _ _ _
    | settle harea hnone => exact .modify (by intro; rfl) (by intro; rfl) _ _
    | recut area =>
      obtain ⟨k, hk, hsame⟩ := map_recalculate hd area now
      obtain ⟨list, hlist⟩ := exists_list_recalculate f area now
      exact .map (fun x => (hsame x).1.id) (fun x => (hsame x).1.seq) hk (by rw [hlist])
    | advance worker => exact .modify (by intro; rfl) (by intro; rfl) _ _
    | renew ha hb => exact .of_eq rfl
    | grant hworker hc =>
      rw [grant_sessions]
      exact .modify (by intro; rfl) (by intro; rfl) _ _
  | count worker kinds => exact .modify (by intro; rfl) (by intro; rfl) _ _
  | trip worker named =>
    rw [(sameWork_tripAccount f worker named now).sessions]
    exact .modify (by intro; rfl) (by intro; rfl) _ _

theorem Moves.succeeds (h : Moves now f g) (hd : f.sessions.Distinct) :
    f.sessions.Succeeds g.sessions := by
  have hboth := h.keep (P := fun g => g.sessions.Distinct ∧ f.sessions.Succeeds g.sessions)
    (fun hf hm => ⟨hm.distinct hf.1, hf.2.trans (hm.succeeds hf.1)⟩) ⟨hd, .of_eq rfl⟩
  exact hboth.2

omit [Store σ] in
theorem succeeds_reconcile (hd : f.sessions.Distinct) (rows : List AreaRecord) :
    f.sessions.Succeeds (f.reconcile rows).sessions := by
  obtain ⟨list, hlist⟩ := exists_list_reconcile f rows
  exact .map (id_unbound _) (seq_unbound _) (list_reconcile hd rows) (by rw [hlist])

theorem Sound.succeeds (hf : f.Sound) (e : Event σ) :
    f.sessions.Succeeds (f.after e).sessions := by
  have hout := f.outcome e
  generalize f.after e = g at hout ⊢
  cases hout with
  | moves now hm => exact hm.succeeds hf.distinct
  | @logout worker s services now hs =>
    have hforget : f.sessions.Succeeds (f.forget s now).sessions := by
      rw [(sameWork_forget f s now).sessions]
      exact .remove _ _
    exact hforget.trans ((quietMoves_logout hs now).moves.succeeds (hf.forget s now).distinct)
  | load hwork hpool => exact .of_eq hwork.sessions
  | @startup services now => exact .of_eq (bootstrap_keeps f now).1.sessions
  | @reload rows services now hrows =>
    rw [hrows]
    exact (succeeds_reconcile hf.distinct rows).trans
      ((quietMoves_recalculateAll _ _ now).moves.succeeds (distinct_reconcile hf.distinct rows))

/-- A session that is there after a run was there before it, or was created in it with a number
that no session had before. -/
theorem Sound.succeeds_run (hf : f.Sound) (events : List (Event σ)) :
    f.sessions.Succeeds (f.run events).sessions := by
  induction events generalizing f with
  | nil => exact .of_eq rfl
  | cons e events ih => exact (hf.succeeds e).trans (ih (hf.after e))

/-! ### Sessions in every state -/

/-- What holds of the sessions of a fleet. -/
structure WellKept (f : Fleet σ) : Prop where
  /-- The step that comes next lies between the first and the last one. -/
  ordered : ∀ x ∈ f.sessions.list, x.bounds.1 ≤ x.bounds.2.2 ∧ x.bounds.2.2 ≤ x.bounds.2.1
  zero : ∀ x ∈ f.sessions.list, x.walk = none → x.bounds = (0, 0, 0)
  bound : ∀ x ∈ f.sessions.list, x.walk.isSome → x.area.isSome
  registered : ∀ x ∈ f.sessions.list, ∀ area, x.area = some area → (f.areas.find? area).isSome
  numbered : (f.sessions.list.map (·.seq)).Nodup
  /-- The sessions of an area are listed in the order of their creation. -/
  created : ∀ area, (f.sessions.inArea area).Pairwise (·.seq < ·.seq)
  /-- The sessions of an area are listed once each, and no others. -/
  listed : ∀ area, ∀ x ∈ f.sessions.list,
    (f.sessions.inArea area).count x = if x.area = some area then 1 else 0

omit [Store σ] in
theorem Sound.wellKept (hf : f.Sound) (ho : f.Ordered) : f.WellKept := by
  constructor
  case ordered => exact fun x hx => Session.bounds_ordered (hf.fits x hx).within
  case zero => exact fun x _ hw => Session.bounds_of_walk_eq_none hw
  case bound => exact fun x hx => (hf.fits x hx).bound
  case registered =>
    intro x hx area ha
    have hsome := (hf.fits x hx).registered area ha
    rwa [route?, Areas.route?_isSome_iff] at hsome
  case numbered => exact ho.sessions.nodup
  case created => exact fun area => ho.sessions.pairwise.filter _
  case listed =>
    intro area x hx
    have hnodup : f.sessions.list.Nodup := hf.distinct.of_map
    split
    next ha =>
      have hmem : x ∈ f.sessions.inArea area := Sessions.mem_inArea.mpr ⟨hx, ha⟩
      exact List.count_eq_one_of_mem (hnodup.filter _) hmem
    next ha =>
      refine List.count_eq_zero_of_not_mem fun hmem => ?_
      exact ha (Sessions.mem_inArea.mp hmem).2

/-- The sessions are well kept in every state of every run, and those that were created since an
earlier state have higher numbers than all that there were. -/
theorem run_sessions (settings : Settings) (store : σ) (before events : List (Event σ)) :
    ((Fleet.new settings store).run (before ++ events)).WellKept ∧
      ((Fleet.new settings store).run before).sessions.Succeeds
        ((Fleet.new settings store).run (before ++ events)).sessions := by
  have hnew := sound_new settings store
  refine ⟨?_, ?_⟩
  · exact (hnew.run _).wellKept ((ordered_new settings store).run hnew _)
  · rw [run_append]
    exact (hnew.run before).succeeds_run events

end Fleet

end ScanFleet
