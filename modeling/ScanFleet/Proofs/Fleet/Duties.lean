import ScanFleet.Proofs.Fleet.Moves
import ScanFleet.Proofs.Fleet.Recalculate

/-! What moves do to the duties of workers, which are their areas and their walks.  Most moves keep
them; the others bind a worker to an area, cut a route, or go one step on.  From this follows what
holds of the duties in every state: a worker is bound to a registered area, it has a walk only
there, and the step that comes next lies in its part. -/

namespace ScanFleet

/-- `y` has the area and the walk of `x`. -/
structure Session.SameDuty (x y : Session) : Prop where
  area : y.area = x.area
  walk : y.walk = x.walk

namespace Fleet

variable {σ : Type}

/-- What a move makes of the sessions of a fleet. -/
inductive SessionMove (f : Fleet σ) (now : Instant) : List Session → Prop
  | keep {k : Session → Session} {new : List Session} (hk : ∀ x : Session, x.SameDuty (k x))
      (hnew : ∀ x ∈ new, x.area = none ∧ x.walk = none) :
      SessionMove f now (f.sessions.list.map k ++ new)
  | settle {worker : String} {area : Int} (harea : (f.route? area).isSome)
      (hnone : ∀ x, f.sessions.find? worker = some x → ∀ old, x.area = some old →
        f.route? old = none) :
      SessionMove f now (f.sessions.modify worker (·.bindArea area)).list
  | recut {area : Int} {r : Route} (hr : f.route? area = some r)
      (hlive : f.liveIds area now ≠ []) :
      SessionMove f now (f.sessions.list.map fun x =>
        if x.area = some area then x.recut (f.liveIds area now) r.length else x)
  | advance (worker : String) : SessionMove f now (f.sessions.modify worker (·.advance)).list

namespace SessionMove

variable {f : Fleet σ} {now : Instant}

theorem keep_map {k : Session → Session} (hk : ∀ x : Session, x.SameDuty (k x)) :
    SessionMove f now (f.sessions.list.map k) := by
  have h : SessionMove f now (f.sessions.list.map k ++ []) := keep hk (by simp)
  rwa [List.append_nil] at h

theorem refl (f : Fleet σ) (now : Instant) : SessionMove f now f.sessions.list := by
  have h : SessionMove f now (f.sessions.list.map id) := keep_map fun x => ⟨rfl, rfl⟩
  rwa [List.map_id] at h

theorem keep_modify {k : Session → Session} (hk : ∀ x : Session, x.SameDuty (k x))
    (worker : String) :
    SessionMove f now (f.sessions.modify worker k).list :=
  keep_map fun x => by
    split
    · exact hk x
    · exact ⟨rfl, rfl⟩

end SessionMove

theorem SameWork.route? {f g : Fleet σ} (h : SameWork f g) (area : Int) :
    g.route? area = f.route? area := by
  rw [Fleet.route?, h.areas, Fleet.route?]

section

variable [Store σ]

theorem sameWork_bindAccount (f : Fleet σ) (worker username : String) (now : Instant) :
    SameWork (f.modifySession worker (·.bindAccount username))
      (f.bindAccount worker username now) := by
  unfold bindAccount
  dsimp only
  split
  · exact sameWork_release _ _ _
  · exact .refl _

def tripped (s : Session) : Session := { s with usage := .zero, username := none }

theorem sameWork_tripAccount (f : Fleet σ) (worker : String) (named : Option String)
    (now : Instant) :
    SameWork (f.modifySession worker tripped) (f.tripAccount worker named now).2 := by
  unfold tripAccount
  dsimp only
  split
  · exact (notes_markDisabled _ _ _).toSameWork.trans (sameWork_release _ _ _)
  · exact (notes_markDisabled _ _ _).toSameWork
  · exact .refl _

variable {f g : Fleet σ} {now : Instant}

theorem Move.settings (h : Move now f g) : g.settings = f.settings := by
  cases h with
  | quiet h =>
    cases h with
    | note h => exact h.settings
    | touch worker host => rfl
    | settle harea hnone => rfl
    | recut area => exact recalculate_settings f area now
    | advance worker => rfl
    | renew ha hb => rfl
    | grant hworker hc =>
      exact (sameWork_bindAccount _ _ _ _).settings.trans (sameWork_allocate f _ now).settings
  | count worker kinds => rfl
  | trip worker named => exact (sameWork_tripAccount f worker named now).settings

theorem Move.route? (h : Move now f g) (id : Int) : g.route? id = f.route? id := by
  cases h with
  | quiet h =>
    cases h with
    | note h => exact h.toSameWork.route? id
    | touch worker host => rfl
    | settle harea hnone => rfl
    | recut area => exact route?_recalculate f area now id
    | advance worker => rfl
    | renew ha hb => exact Areas.route?_replace ha hb id
    | grant hworker hc =>
      exact ((sameWork_bindAccount _ _ _ _).route? id).trans ((sameWork_allocate f _ now).route? id)
  | count worker kinds => rfl
  | trip worker named => exact (sameWork_tripAccount f worker named now).route? id

theorem Moves.settings (h : Moves now f g) : g.settings = f.settings :=
  h.keep (P := fun g => g.settings = f.settings) (fun hf hm => hm.settings.trans hf) rfl

theorem Moves.route? (h : Moves now f g) (id : Int) : g.route? id = f.route? id :=
  h.keep (P := fun g => g.route? id = f.route? id) (fun hf hm => (hm.route? id).trans hf) rfl

theorem grant_sessions (f : Fleet σ) (worker : String) (accept : Account → Bool) (username : String)
    (now : Instant) :
    ((f.allocate accept now).2.bindAccount worker username now).sessions =
      f.sessions.modify worker (·.bindAccount username) := by
  rw [(sameWork_bindAccount _ _ _ _).sessions, modifySession,
    (sameWork_allocate f accept now).sessions]

theorem Move.distinct (h : Move now f g) (hd : f.sessions.Distinct) : g.sessions.Distinct := by
  cases h with
  | quiet h =>
    cases h with
    | note h => rw [h.sessions]; exact hd
    | touch worker host => exact hd.touch worker host now
    | settle harea hnone => exact hd.modify (by intro; rfl) _
    | recut area => exact distinct_recalculate hd area now
    | advance worker => exact hd.modify (by intro; rfl) _
    | renew ha hb => exact hd
    | grant hworker hc => rw [grant_sessions]; exact hd.modify (by intro; rfl) _
  | count worker kinds => exact hd.modify (by intro; rfl) _
  | trip worker named =>
    rw [(sameWork_tripAccount f worker named now).sessions]
    exact hd.modify (by intro; rfl) _

theorem Move.sessionMove (h : Move now f g) (hd : f.sessions.Distinct) :
    SessionMove f now g.sessions.list := by
  cases h with
  | quiet h =>
    cases h with
    | note h => rw [h.sessions]; exact .refl f now
    | touch worker host =>
      rw [Fleet.touch, Sessions.list_touch]
      refine .keep (fun x => ?_) ?_
      · split <;> exact ⟨rfl, rfl⟩
      · split <;> simp [Session.touch, Session.new]
    | settle harea hnone =>
      refine .settle (Areas.route?_isSome_iff.mpr harea) fun x hx old hold => ?_
      simpa [hx, hold, Fleet.route?, Areas.route?] using hnone
    | recut area =>
      by_cases hc : f.route? area = none ∨ f.liveIds area now = []
      · rw [sessions_recalculate_eq_self hd hc]
        exact .refl f now
      · rw [not_or] at hc
        obtain ⟨r, hr⟩ := Option.ne_none_iff_exists'.mp hc.1
        rw [list_recalculate hd hr hc.2]
        exact .recut hr hc.2
    | advance worker => exact .advance worker
    | renew ha hb => exact .refl f now
    | grant hworker hc => rw [grant_sessions]; exact .keep_modify (by intro; exact ⟨rfl, rfl⟩) _
  | count worker kinds => exact .keep_modify (by intro; exact ⟨rfl, rfl⟩) worker
  | trip worker named =>
    rw [(sameWork_tripAccount f worker named now).sessions]
    exact .keep_modify (by intro; exact ⟨rfl, rfl⟩) worker

end

/-! ### Sound duties -/

/-- A session is bound to a registered area if to any, has a walk only then, and is on its part. -/
structure Fits (f : Fleet σ) (x : Session) : Prop where
  registered : ∀ area, x.area = some area → (f.route? area).isSome
  bound : x.walk.isSome → x.area.isSome
  within : ∀ w, x.walk = some w → w.Within

/-- No worker has two sessions, and every session fits. -/
structure Sound (f : Fleet σ) : Prop where
  distinct : f.sessions.Distinct
  fits : ∀ x ∈ f.sessions.list, f.Fits x

namespace Fits

variable {f g : Fleet σ} {x y : Session}

theorem congr (h : f.Fits x) (hr : ∀ area, (f.route? area).isSome → (g.route? area).isSome) :
    g.Fits x :=
  ⟨fun area ha => hr area (h.registered area ha), h.bound, h.within⟩

theorem sameDuty (h : f.Fits x) (hxy : x.SameDuty y) : f.Fits y := by
  refine ⟨?_, ?_, ?_⟩
  · rw [hxy.area]; exact h.registered
  · rw [hxy.area, hxy.walk]; exact h.bound
  · rw [hxy.walk]; exact h.within

theorem of_none (ha : x.area = none) (hw : x.walk = none) : f.Fits x :=
  ⟨by simp [ha], by simp [hw], by simp [hw]⟩

theorem advance (h : f.Fits x) : f.Fits x.advance := by
  refine ⟨h.registered, fun hw => h.bound (by simpa [Session.advance] using hw), fun w hw => ?_⟩
  obtain ⟨v, hv, rfl⟩ := Option.map_eq_some_iff.mp hw
  exact (h.within v hv).advance

theorem recut (h : f.Fits x) {area : Int} (ha : x.area = some area) (live : List String)
    (steps : Nat) : f.Fits (x.recut live steps) := by
  have hsame := x.sameButWalk_recut live steps
  refine ⟨?_, ?_, fun w hw => (Session.walk_recut hw).2.1⟩
  · rw [hsame.area]; exact h.registered
  · rw [hsame.area, ha]; exact fun _ => rfl

/-- Whoever is bound to an area that is registered was bound to none, and so has no walk. -/
theorem bindArea (h : f.Fits x) {area : Int} (harea : (f.route? area).isSome)
    (hnone : ∀ old, x.area = some old → f.route? old = none) :
    x.walk = none ∧ f.Fits (x.bindArea area) := by
  have hx : x.area = none := by
    cases ha : x.area with
    | none => rfl
    | some old =>
      have hreg := h.registered old ha
      rw [hnone old ha] at hreg
      cases hreg
  have hw : x.walk = none := by
    cases hw : x.walk with
    | none => rfl
    | some w =>
      have hb := h.bound (by simp [hw])
      rw [hx] at hb
      cases hb
  refine ⟨hw, fun other ho => ?_, fun _ => rfl, by simp [Session.bindArea, hw]⟩
  cases ho
  exact harea

end Fits

theorem sound_empty {f : Fleet σ} (h : f.sessions.list = []) : f.Sound :=
  ⟨by rw [Sessions.Distinct, h]; exact List.nodup_nil, by simp [h]⟩

theorem SessionMove.fits {f : Fleet σ} {now : Instant} {l : List Session}
    (h : SessionMove f now l) (hf : f.Sound) : ∀ x ∈ l, f.Fits x := by
  cases h with
  | keep hk hnew =>
    intro y hy
    rcases List.mem_append.mp hy with hy | hy
    · obtain ⟨x, hx, rfl⟩ := List.mem_map.mp hy
      exact (hf.fits x hx).sameDuty (hk x)
    · exact .of_none (hnew y hy).1 (hnew y hy).2
  | settle harea hnone =>
    intro y hy
    obtain ⟨x, hx, rfl⟩ := List.mem_map.mp hy
    split
    next he =>
      exact ((hf.fits x hx).bindArea harea
        (hnone x ((Sessions.find?_eq_some_iff hf.distinct).mpr ⟨hx, he⟩))).2
    next => exact hf.fits x hx
  | recut hr hlive =>
    intro y hy
    obtain ⟨x, hx, rfl⟩ := List.mem_map.mp hy
    split
    next ha => exact (hf.fits x hx).recut ha _ _
    next => exact hf.fits x hx
  | advance worker =>
    intro y hy
    obtain ⟨x, hx, rfl⟩ := List.mem_map.mp hy
    split
    · exact (hf.fits x hx).advance
    · exact hf.fits x hx

section

variable [Store σ] {f g : Fleet σ} {now : Instant}

theorem Sound.move (hf : f.Sound) (h : Move now f g) : g.Sound :=
  ⟨h.distinct hf.distinct, fun x hx =>
    ((h.sessionMove hf.distinct).fits hf x hx).congr fun area ha => by rwa [h.route?]⟩

theorem Sound.moves (hf : f.Sound) (h : Moves now f g) : g.Sound :=
  h.keep (fun hf h => Sound.move hf h) hf

end

end Fleet

end ScanFleet
