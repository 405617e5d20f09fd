import ScanFleet.Proofs.Fleet.Run

/-! The cover of a route by the parts of its workers.  A cut with a live worker covers the route,
and the moves keep it covered: a worker that goes stale keeps its part until the next cut.  A gap
comes only of a logout, of a worker with a part, when no other worker of the area is live but some
other one has a part, since nothing is cut then. -/

namespace ScanFleet

/-- The worker has a part of the route of an area with a step in it. -/
def Session.Covers (x : Session) (area : Int) (step : Nat) : Prop :=
  x.area = some area ∧ ∃ w ∈ x.walk, w.part.contains step

instance (x : Session) (area : Int) (step : Nat) : Decidable (x.Covers area step) := by
  unfold Session.Covers
  infer_instance

/-- The worker has a part of the route of an area. -/
def Session.Holds (x : Session) (area : Int) : Prop := x.area = some area ∧ x.walk.isSome

/-- When some worker of a list has a part of the route of an area, every step is in such a part. -/
def Gapless (l : List Session) (area : Int) (steps : Nat) : Prop :=
  (∃ x ∈ l, x.Holds area) → ∀ k < steps, ∃ x ∈ l, x.Covers area k

namespace Gapless

variable {l l' : List Session} {area : Int} {steps : Nat}

theorem transfer (h : Gapless l area steps)
    (hback : ∀ y ∈ l', y.Holds area → ∃ x ∈ l, x.Holds area)
    (hforth : ∀ x ∈ l, ∀ k, x.Covers area k → ∃ y ∈ l', y.Covers area k) :
    Gapless l' area steps := by
  rintro ⟨y, hy, hhold⟩ k hk
  obtain ⟨x, hx, hcover⟩ := h (hback y hy hhold) k hk
  exact hforth x hx k hcover

theorem map (h : Gapless l area steps) {g : Session → Session}
    (hback : ∀ x ∈ l, (g x).Holds area → x.Holds area)
    (hforth : ∀ x ∈ l, ∀ k, x.Covers area k → (g x).Covers area k) :
    Gapless (l.map g) area steps := by
  refine h.transfer (fun y hy hhold => ?_) fun x hx k hcover =>
    ⟨g x, List.mem_map_of_mem hx, hforth x hx k hcover⟩
  obtain ⟨x, hx, rfl⟩ := List.mem_map.mp hy
  exact ⟨x, hx, hback x hx hhold⟩

theorem of_no_holder (h : ∀ x ∈ l, ¬ x.Holds area) : Gapless l area steps := by
  rintro ⟨x, hx, hhold⟩
  exact absurd hhold (h x hx)

end Gapless

namespace Session

variable {x y : Session} {area : Int}

theorem Covers.holds {step : Nat} (h : x.Covers area step) : x.Holds area := by
  obtain ⟨ha, w, hw, -⟩ := h
  exact ⟨ha, Option.isSome_of_eq_some hw⟩

theorem SameDuty.holds_iff (h : x.SameDuty y) : y.Holds area ↔ x.Holds area := by
  rw [Holds, Holds, h.area, h.walk]

theorem SameDuty.covers_iff (h : x.SameDuty y) {step : Nat} :
    y.Covers area step ↔ x.Covers area step := by
  rw [Covers, Covers, h.area, h.walk]

theorem holds_advance : x.advance.Holds area ↔ x.Holds area := by
  simp [Holds, advance]

theorem covers_advance {step : Nat} : x.advance.Covers area step ↔ x.Covers area step := by
  cases hw : x.walk <;> simp [Covers, advance, hw, Walk.advance]

end Session

/-- An event that loads no areas. -/
def Event.KeepsAreas {σ : Type} : Event σ → Prop
  | .perform .bootstrap _ _ | .perform .reloadAreas _ _ => False
  | _ => True

namespace Fleet

variable {σ : Type} {f : Fleet σ} {area : Int} {now : Instant} {steps : Nat}

theorem gapless_recut (hd : f.sessions.Distinct) (hlive : f.liveIds area now ≠ []) (steps : Nat) :
    Gapless (f.sessions.list.map fun x =>
      if x.area = some area then x.recut (f.liveIds area now) steps else x) area steps := by
  intro _ k hk
  obtain ⟨x, hx, w, hw, hc⟩ := Sessions.exists_recut_contains hd hlive hk
  obtain ⟨hmem, ha, -⟩ := Sessions.mem_liveIn.mp hx
  exact ⟨_, List.mem_map_of_mem hmem, by
    rw [if_pos ha]
    exact ⟨(x.sameButWalk_recut _ _).area.trans ha, w, hw, hc⟩⟩

theorem SessionMove.gapless {l : List Session} (hm : SessionMove f now l) (hf : f.Sound)
    {r : Route} (hr : f.route? area = some r) (h : Gapless f.sessions.list area r.length) :
    Gapless l area r.length := by
  cases hm with
  | @keep k new hk hnew =>
    refine h.transfer (fun y hy hhold => ?_) fun x hx step hcover =>
      ⟨k x, List.mem_append_left _ (List.mem_map_of_mem hx), (hk x).covers_iff.mpr hcover⟩
    rcases List.mem_append.mp hy with hy | hy
    · obtain ⟨x, hx, rfl⟩ := List.mem_map.mp hy
      exact ⟨x, hx, (hk x).holds_iff.mp hhold⟩
    · rw [Session.Holds, (hnew y hy).1] at hhold
      cases hhold.1
  | @settle worker area' harea hnone =>
    -- Whoever settles has no walk, before and afterwards.
    have hfree : ∀ x ∈ f.sessions.list, x.id = worker → x.walk = none := fun x hx he =>
      ((hf.fits x hx).bindArea harea
        (hnone x ((Sessions.find?_eq_some_iff hf.distinct).mpr ⟨hx, he⟩))).1
    refine h.map (fun x hx hhold => ?_) fun x hx step hcover => ?_
    · split at hhold
      next he =>
        have hw : x.walk.isSome := hhold.2
        rw [hfree x hx he] at hw
        cases hw
      next => exact hhold
    · split
      next he =>
        obtain ⟨-, w, hw, -⟩ := hcover
        rw [hfree x hx he] at hw
        cases hw
      next => exact hcover
  | @recut other r' hr' hlive =>
    by_cases he : area = other
    · subst he
      rw [hr] at hr'
      cases hr'
      exact gapless_recut hf.distinct hlive _
    · have hother : ∀ x : Session, (x.area = some area ∨ (if x.area = some other then
          x.recut (f.liveIds other now) r'.length else x).area = some area) →
          x.area ≠ some other := by
        rintro x (ha | ha) hx
        · rw [ha] at hx
          cases hx
          exact he rfl
        · rw [if_pos hx, (x.sameButWalk_recut _ _).area, hx] at ha
          cases ha
          exact he rfl
      refine h.map (fun x hx hhold => ?_) fun x hx step hcover => ?_
      · rwa [if_neg (hother x (.inr hhold.1))] at hhold
      · rwa [if_neg (hother x (.inl hcover.1))]
  | advance worker =>
    refine h.map (fun x hx hhold => ?_) fun x hx step hcover => ?_
    · split at hhold
      · exact Session.holds_advance.mp hhold
      · exact hhold
    · split
      · exact Session.covers_advance.mpr hcover
      · exact hcover

section

variable [Store σ] {g : Fleet σ}

theorem Moves.gapless (hm : Moves now f g) (hf : f.Sound) {r : Route}
    (hr : f.route? area = some r) (h : Gapless f.sessions.list area r.length) :
    Gapless g.sessions.list area r.length :=
  (hm.keep (P := fun g => g.Sound ∧ g.route? area = some r ∧ Gapless g.sessions.list area r.length)
    (fun ⟨hg, hr, h⟩ hm => ⟨hg.move hm, (hm.route? area).trans hr,
      (hm.sessionMove hg.distinct).gapless hg hr h⟩) ⟨hf, hr, h⟩).2.2

/-! ### Logouts -/

/-- The area whose parts an event abandons: a worker with a part of its route logs out when no other
worker of the area is live, but some other one has a part. -/
def abandoned (f : Fleet σ) : Event σ → Option Int
  | .perform (.logout worker) _ now =>
    (f.sessions.find? worker).bind fun x => x.area.filter fun area =>
      x.walk.isSome && (f.sessions.remove worker).liveIds area now f.settings.unseen = [] &&
        ((f.sessions.remove worker).inArea area).any (·.walk.isSome)
  | _ => none

theorem gapless_logout (hf : f.Sound) {worker : String} {s : Session}
    (hs : f.sessions.find? worker = some s) {services : Services}
    (he : f.abandoned (.perform (.logout worker) services now) ≠ some area) {r : Route}
    (hr : f.route? area = some r) (h : Gapless f.sessions.list area r.length) :
    Gapless (f.logout worker now).2.sessions.list area r.length := by
  have hid := Sessions.id_of_find? hs
  have hwork := sameWork_forget f s now
  have hforget := hf.forget s now
  have hroute : (f.forget s now).route? area = some r := (hwork.route? area).trans hr
  have hmoves := (quietMoves_logout hs now).moves
  by_cases hhold : s.Holds area
  · by_cases hlive : (f.forget s now).liveIds area now = []
    · -- Nobody is live, so nothing is cut; but nobody else has a part.
      refine hmoves.gapless hforget hroute (.of_no_holder fun x hx hx' => he ?_)
      rw [hwork.sessions] at hx
      rw [liveIds, hwork.sessions, hwork.settings] at hlive
      have hin : x ∈ (f.sessions.remove s.id).inArea area := Sessions.mem_inArea.mpr ⟨hx, hx'.1⟩
      have hany : ((f.sessions.remove worker).inArea area).any (·.walk.isSome) :=
        List.any_eq_true.mpr ⟨x, hid ▸ hin, hx'.2⟩
      simp only [abandoned, hs, Option.bind_some, hhold.1]
      simp [Option.filter, hhold.2, hid ▸ hlive, hany]
    · -- The cut of the logout covers the route.
      have hcut : (f.logout worker now).2.sessions =
          ((f.forget s now).recalculate area now).2.sessions := by
        rw [logout_snd hs, hhold.1]
        rfl
      rw [hcut, list_recalculate hforget.distinct hroute hlive]
      exact gapless_recut hforget.distinct hlive _
  · -- The one who leaves has no part of this route.
    refine hmoves.gapless hforget hroute (h.transfer (fun y hy hy' => ?_) fun x hx k hcover => ?_)
    · rw [hwork.sessions] at hy
      exact ⟨y, (Sessions.mem_remove.mp hy).1, hy'⟩
    · rw [hwork.sessions]
      refine ⟨x, Sessions.mem_remove.mpr ⟨hx, fun hxid => hhold ?_⟩, hcover⟩
      rw [← Sessions.eq_of_id hf.distinct hx (Sessions.mem_of_find? hs) hxid]
      exact hcover.holds

/-! ### Runs over fixed areas -/

theorem route?_after {e : Event σ} (he : e.KeepsAreas) (area : Int) :
    (f.after e).route? area = f.route? area := by
  have h := f.outcome e
  generalize f.after e = g at h ⊢
  cases h with
  | moves _ hm => exact hm.route? area
  | logout hs =>
    exact ((quietMoves_logout hs _).moves.route? area).trans ((sameWork_forget f _ _).route? area)
  | load hwork hpool => exact hwork.route? area
  | startup => exact he.elim
  | reload hrows => exact he.elim

theorem route?_run {events : List (Event σ)} (h : ∀ e ∈ events, e.KeepsAreas) (area : Int) :
    (f.run events).route? area = f.route? area := by
  induction events generalizing f with
  | nil => rfl
  | cons e events ih =>
    exact (ih fun e' he' => h e' (List.mem_cons_of_mem e he')).trans
      (route?_after (h e List.mem_cons_self) area)

theorem gapless_after (hf : f.Sound) {e : Event σ} (he : e.KeepsAreas)
    (habandoned : f.abandoned e ≠ some area) {r : Route} (hr : f.route? area = some r)
    (h : Gapless f.sessions.list area r.length) :
    Gapless (f.after e).sessions.list area r.length := by
  have hout := f.outcome e
  generalize f.after e = g at hout ⊢
  cases hout with
  | moves _ hm => exact hm.gapless hf hr h
  | logout hs => exact gapless_logout hf hs habandoned hr h
  | load hwork hpool => rw [hwork.sessions]; exact h
  | startup => exact he.elim
  | reload hrows => exact he.elim

/-- A run over fixed areas, in which no logout abandons the parts of an area, makes no gap there. -/
theorem gapless_run (hf : f.Sound) {events : List (Event σ)}
    (hkeep : ∀ e ∈ events, e.KeepsAreas)
    (habandoned : Along (fun f e => f.abandoned e ≠ some area) f events) {r : Route}
    (hr : f.route? area = some r) (h : Gapless f.sessions.list area r.length) :
    Gapless (f.run events).sessions.list area r.length := by
  induction events generalizing f with
  | nil => exact h
  | cons e events ih =>
    have he := hkeep e List.mem_cons_self
    exact ih (hf.after e) (fun e' he' => hkeep e' (List.mem_cons_of_mem e he')) habandoned.2
      ((route?_after he area).trans hr) (gapless_after hf he habandoned.1 hr h)

end

/-! ### Sweeps -/

/-- Every step of a route is in the part of a live worker of the area. -/
def LiveCovers (f : Fleet σ) (area : Int) (now : Instant) (steps : Nat) : Prop :=
  ∀ k < steps, ∃ x ∈ f.sessions.liveIn area now f.settings.unseen, x.Covers area k

instance (f : Fleet σ) (area : Int) (now : Instant) (steps : Nat) :
    Decidable (f.LiveCovers area now steps) := by
  unfold LiveCovers
  infer_instance

theorem inArea_recalculate (hd : f.sessions.Distinct) {other : Int} (h : area ≠ other)
    (now : Instant) :
    (f.recalculate other now).2.sessions.inArea area = f.sessions.inArea area := by
  obtain ⟨k, hk, hsame⟩ := map_recalculate hd other now
  rw [Sessions.inArea, hk, List.filter_map, Sessions.inArea]
  have harea : (fun x : Session => decide (x.area = some area)) ∘ k =
      fun x => decide (x.area = some area) := funext fun x => by
    simp [(hsame x).1.area]
  rw [harea]
  refine (List.map_congr_left fun x hx => (hsame x).2 ?_).trans (List.map_id _)
  have ha := of_decide_eq_true (List.mem_filter.mp hx).2
  rw [ha]
  exact fun he => h (Option.some.inj he)

theorem liveCovers_recalculate_of_live (hd : f.sessions.Distinct) {r : Route}
    (hr : f.route? area = some r) (hlive : f.liveIds area now ≠ []) :
    (f.recalculate area now).2.LiveCovers area now r.length := by
  intro k hk
  obtain ⟨x, hx, w, hw, hc⟩ := Sessions.exists_recut_contains hd hlive hk
  obtain ⟨hmem, ha, hxlive⟩ := Sessions.mem_liveIn.mp hx
  have hsame := x.sameButWalk_recut (f.liveIds area now) r.length
  refine ⟨_, Sessions.mem_liveIn.mpr ⟨?_, hsame.area.trans ha, ?_⟩, hsame.area.trans ha, w, hw, hc⟩
  · rw [list_recalculate hd hr hlive]
    exact List.mem_map.mpr ⟨x, hmem, if_pos ha⟩
  · rw [Session.isLive, hsame.lastSeen, recalculate_settings]
    exact hxlive

theorem liveCovers_recalculate (hd : f.sessions.Distinct) {r : Route}
    (hr : f.route? area = some r) (h : f.LiveCovers area now r.length) (other : Int) :
    (f.recalculate other now).2.LiveCovers area now r.length := by
  by_cases he : area = other
  · subst he
    by_cases hlive : f.liveIds area now = []
    · rw [LiveCovers, sessions_recalculate_eq_self hd (.inr hlive), recalculate_settings]
      exact h
    · exact liveCovers_recalculate_of_live hd hr hlive
  · rw [LiveCovers, Sessions.liveIn, inArea_recalculate hd he, recalculate_settings]
    exact h

end Fleet

end ScanFleet
