import ScanFleet.Proofs.Fleet.Cuts
import ScanFleet.Proofs.Fleet.Refusals

/-! Walks that go on.  Between two cuts the workers of an area take steps and are seen.  A worker
stays in its part all the while, so a cut for the same live workers gives everyone the part that it
has and the step that it was about to take. -/

namespace ScanFleet

theorem Walk.Within.assign_self {w : Walk} (h : w.Within) : Walk.assign (some w) w.part = w := by
  have hin : w.part.contains w.step := by simpa [Part.contains, Walk.Within] using h
  rw [Walk.assign, if_pos hin]

namespace Sessions

/-- What workers do between two cuts. -/
inductive Stir where
  | advance (worker : String)
  | touch (worker : String) (host : Option String) (now : Instant)

def stir (s : Sessions) : Stir → Sessions
  | .advance worker => s.modify worker (·.advance)
  | .touch worker host now => s.touch worker host now

/-- Of the workers `ids` the live ones are under way, each in its part of a route of so many steps,
and the others have no part. -/
structure UnderWay (s : Sessions) (ids live : List String) (steps : Nat) : Prop where
  among : live ⊆ ids
  walk : ∀ id ∈ live, ∃ w, s.walk? id = some w ∧ w.Within ∧
    w.part = part steps live.length (live.idxOf id)
  idle : ∀ id ∈ ids, id ∉ live → s.walk? id = none

theorem walk?_modify {k : Session → Session} (hid : ∀ x, (k x).id = x.id)
    (hwalk : ∀ x, (k x).walk = x.walk) (s : Sessions) (worker id : String) :
    (s.modify worker k).walk? id = s.walk? id :=
  bind_find?_modify hid hwalk s worker id

theorem walk?_touch (s : Sessions) (worker : String) (host : Option String) (now : Instant)
    (id : String) : (s.touch worker host now).walk? id = s.walk? id :=
  bind_find?_touch (fun _ _ _ => rfl) (fun _ _ _ => rfl) s worker host now id

namespace UnderWay

variable {s : Sessions} {ids live : List String} {steps : Nat} {now : Instant} {unseen : Span}

theorem of_walk?_eq {t : Sessions} (h : s.UnderWay ids live steps)
    (ht : ∀ id ∈ ids, t.walk? id = s.walk? id) : t.UnderWay ids live steps := by
  refine ⟨h.among, fun id hid => ?_, fun id hid hnot => ?_⟩
  · rw [ht id (h.among hid)]
    exact h.walk id hid
  · rw [ht id hid]
    exact h.idle id hid hnot

theorem stir (h : s.UnderWay ids live steps) (e : Stir) : (s.stir e).UnderWay ids live steps := by
  cases e with
  | advance worker =>
    have hwalk : ∀ id, (s.stir (.advance worker)).walk? id =
        if id = worker then (s.walk? id).map Walk.advance else s.walk? id := s.walk?_turn worker
    refine ⟨h.among, fun id hid => ?_, fun id hid hnot => ?_⟩
    · obtain ⟨w, hw, hin, hpart⟩ := h.walk id hid
      rw [hwalk, hw]
      split
      · exact ⟨w.advance, rfl, hin.advance, hpart⟩
      · exact ⟨w, rfl, hin, hpart⟩
    · rw [hwalk, h.idle id hid hnot, Option.map_none, ite_self]
  | touch worker host now => exact h.of_walk?_eq fun id _ => s.walk?_touch worker host now id

theorem run (h : s.UnderWay ids live steps) (stirs : List Stir) :
    (stirs.foldl Sessions.stir s).UnderWay ids live steps := by
  induction stirs generalizing s with
  | nil => exact h
  | cons e stirs ih => exact ih (h.stir e)

/-- A cut puts everyone under way. -/
theorem of_partitionRoute (s : Sessions) (hids : ids.Nodup) (hsteps : 0 < steps)
    (hlive : ids.filter (s.isLive · now unseen) = live) (hne : live ≠ []) :
    (s.partitionRoute ids steps now unseen).2.UnderWay ids live steps := by
  refine ⟨hlive ▸ List.filter_subset_self _, fun id hid => ?_, fun id hid hnot => ?_⟩
  · obtain ⟨old, hold⟩ := walk?_partitionRoute hids hsteps hlive hid
    have hlen : 0 < live.length := List.length_pos_iff.mpr hne
    exact ⟨_, hold, Walk.within_assign old (part_start_le_last hlen _), Walk.part_assign _ _⟩
  · rw [walk?, find?_partitionRoute_of_mem hids hlive hne hid]
    cases hx : s.find? id with
    | none => rfl
    | some x =>
      have hrecut : x.recut live steps = x.clearWalk := by
        rw [Session.recut, id_of_find? hx, if_neg (fun h => hnot h.1)]
      rw [Option.map_some, hrecut]
      rfl

theorem recut_eq_self (h : s.UnderWay ids live steps) (hsteps : 0 < steps) {x : Session}
    {id : String} (hx : s.find? id = some x) (hid : id ∈ ids) : x.recut live steps = x := by
  have hwalk : s.walk? id = x.walk := by rw [walk?, hx, Option.bind_some]
  rw [Session.recut, id_of_find? hx]
  split
  next hl =>
    obtain ⟨w, hw, hin, hpart⟩ := h.walk id hl.1
    rw [← hpart, Session.assign, ← hwalk, hw, hin.assign_self, ← hw, hwalk]
  next hl =>
    have hnone := h.idle id hid fun hmem => hl ⟨hmem, hsteps⟩
    rw [Session.clearWalk, ← hnone, hwalk]

/-- A cut for the workers that are under way changes nothing. -/
theorem find?_partitionRoute (h : s.UnderWay ids live steps) (hids : ids.Nodup)
    (hsteps : 0 < steps) (hlive : ids.filter (s.isLive · now unseen) = live) (hne : live ≠ [])
    (id : String) : (s.partitionRoute ids steps now unseen).2.find? id = s.find? id := by
  by_cases hid : id ∈ ids
  · rw [find?_partitionRoute_of_mem hids hlive hne hid]
    cases hx : s.find? id with
    | none => rfl
    | some x => rw [Option.map_some, h.recut_eq_self hsteps hx hid]
  · exact find?_partitionRoute_of_not_mem hids (hlive ▸ hne) hid steps

end UnderWay

/-! ### Workers of an area -/

theorem isLive_modify {k : Session → Session} (hid : ∀ x, (k x).id = x.id)
    (hseen : ∀ x, (k x).lastSeen = x.lastSeen) (s : Sessions) (worker id : String) (now : Instant)
    (unseen : Span) : (s.modify worker k).isLive id now unseen = s.isLive id now unseen := by
  rw [isLive, find?_modify hid]
  split
  · cases hx : s.find? id <;> simp [isLive, Session.isLive, hx, hseen]
  · rfl

theorem ids_inArea_modify {k : Session → Session} (hid : ∀ x, (k x).id = x.id)
    (harea : ∀ x, (k x).area = x.area) (s : Sessions) (worker : String) (area : Int) :
    ((s.modify worker k).inArea area).map (·.id) = (s.inArea area).map (·.id) := by
  have hin (x : Session) : (if x.id = worker then k x else x).area = x.area := by
    split
    · exact harea x
    · rfl
  have hids (x : Session) : (if x.id = worker then k x else x).id = x.id := by
    split
    · exact hid x
    · rfl
  simp only [inArea, modify, List.filter_map, List.map_map, Function.comp_def, hin, hids]

/-- A worker that is seen for the first time is in no area yet. -/
theorem ids_inArea_touch (s : Sessions) (worker : String) (host : Option String) (now : Instant)
    (area : Int) :
    ((s.touch worker host now).inArea area).map (·.id) = (s.inArea area).map (·.id) := by
  rw [touch, ids_inArea_modify (k := (·.touch host now)) (fun _ => rfl) (fun _ => rfl)]
  unfold ensure
  split
  · rfl
  · simp [inArea, Session.new]

end Sessions

namespace Fleet

variable {σ : Type} {f : Fleet σ} {worker : String} {host : Option String} {now : Instant}

/-- A cut for one area leaves the workers of the others alone. -/
theorem walk?_recalculate_of_ne (hd : f.sessions.Distinct) {area other : Int} (hne : other ≠ area)
    {id : String} (hid : id ∈ f.workersOf area) :
    (f.recalculate other now).2.sessions.walk? id = f.sessions.walk? id := by
  obtain ⟨x, hx, rfl⟩ := List.mem_map.mp hid
  obtain ⟨hmem, harea⟩ := Sessions.mem_inArea.mp hx
  obtain ⟨k, hk, hsame⟩ := map_recalculate hd other now
  have hfind := Sessions.find?_of_mem hd hmem
  have hkeep : k x = x := (hsame x).2 fun he => hne (Option.some.inj (he.symm.trans harea))
  rw [Sessions.walk?, Sessions.find?, hk,
    Keyed.find?_map (k := fun x : Session => x.id) fun x => (hsame x).1.id, ← Sessions.find?, hfind,
    Option.map_some, hkeep, Sessions.walk?, hfind]

/-- While the live workers of an area are the same, no cut changes the walk of any of its
workers. -/
theorem walk?_recalculate (hd : f.sessions.Distinct) {area : Int} {r : Route} {live : List String}
    (h : f.sessions.UnderWay (f.workersOf area) live r.length) (hr : f.route? area = some r)
    (hsteps : 0 < r.length)
    (hlive : (f.workersOf area).filter (f.sessions.isLive · now f.settings.unseen) = live)
    (hne : live ≠ []) (other : Int) {id : String} (hid : id ∈ f.workersOf area) :
    (f.recalculate other now).2.sessions.walk? id = f.sessions.walk? id := by
  by_cases ho : other = area
  · have hids : (f.workersOf area).Nodup := hd.filter _
    rw [ho, sessions_recalculate hr, Sessions.walk?,
      h.find?_partitionRoute hids hsteps hlive hne, Sessions.walk?]
  · exact walk?_recalculate_of_ne hd ho hid

variable [Store σ]

/-- A worker that asks for an account is seen; if it gets one, it is bound to it and the route of
its area is cut anew. -/
theorem assignAccount_sessions (f : Fleet σ) (worker : String) (host : Option String)
    (now : Instant) :
    (f.assignAccount worker host now).2.sessions = f.sessions.touch worker host now ∨
    ∃ (a : Area) (username : String) (g : Fleet σ),
      (f.touch worker host now).boundArea worker = .ok a ∧
      SameWork ((f.touch worker host now).modifySession worker (·.bindAccount username)) g ∧
      (f.assignAccount worker host now).2.sessions = (g.recalculate a.id now).2.sessions := by
  rcases f.assignAccount_cases worker host now with ⟨_, hr⟩ | ⟨a, c, ha, -, hr⟩ <;> rw [hr]
  · exact .inl rfl
  · have hwork := sameWork_allocate (f.touch worker host now) (f.touch worker host now).accepts now
    generalize ((f.touch worker host now).allocate (f.touch worker host now).accepts now).2 = g
      at hwork ⊢
    have hbind := sameWork_bindAccount g worker c.username now
    refine .inr ⟨a, c.username, g.bindAccount worker c.username now, ha, ?_,
      (notes_persistDevice _ worker now).sessions⟩
    exact ⟨hbind.settings.trans hwork.settings,
      hbind.sessions.trans (congrArg (·.modify worker (·.bindAccount c.username)) hwork.sessions),
      hbind.areas.trans hwork.areas⟩

/-- While the live workers of an area are the same, no request for an account changes the walk of
any of its workers. -/
theorem walk?_assignAccount (hd : f.sessions.Distinct) {b : Area} {ids live : List String}
    (h : f.sessions.UnderWay ids live b.route.length) (hroute : 0 < b.route.length)
    (hb : f.areas.find? b.id = some b) (hids : f.workersOf b.id = ids)
    (hlive : ids.filter ((f.touch worker host now).sessions.isLive · now f.settings.unseen) = live)
    (hne : live ≠ []) {id : String} (hid : id ∈ ids) :
    (f.assignAccount worker host now).2.sessions.walk? id = f.sessions.walk? id := by
  rcases f.assignAccount_sessions worker host now with hsaw | ⟨a, username, g, -, hg, hsessions⟩
  · rw [hsaw, Sessions.walk?_touch]
  · have hbound : g.sessions =
        (f.sessions.touch worker host now).modify worker (·.bindAccount username) := hg.sessions
    have hwalk (id : String) : g.sessions.walk? id = f.sessions.walk? id := by
      rw [hbound, Sessions.walk?_modify (k := (·.bindAccount username)) (fun _ => rfl) fun _ => rfl,
        Sessions.walk?_touch]
    have hworkers : g.workersOf b.id = ids := by
      rw [workersOf, hbound, Sessions.ids_inArea_modify (k := (·.bindAccount username))
        (fun _ => rfl) (fun _ => rfl), Sessions.ids_inArea_touch, ← hids, workersOf]
    have hsame : (g.workersOf b.id).filter (g.sessions.isLive · now g.settings.unseen) = live := by
      have hseen (id : String) := Sessions.isLive_modify (k := (·.bindAccount username))
        (fun _ => rfl) (fun _ => rfl) (f.sessions.touch worker host now) worker id
      simp only [hworkers, hbound, hg.settings, hseen]
      exact hlive
    have hdistinct : g.sessions.Distinct := by
      rw [hbound]
      exact (hd.touch worker host now).modify (by intro; rfl) worker
    have hr : g.route? b.id = some b.route := by
      rw [route?, hg.areas]
      exact congrArg (Option.map (·.route)) hb
    subst hworkers
    rw [hsessions, ← hwalk]
    exact walk?_recalculate hdistinct (h.of_walk?_eq fun id _ => hwalk id) hr hroute hsame hne a.id
      hid

end Fleet

/-- While its workers go on, an area can be cut anew for the same live workers as often as one
likes: nobody's walk changes, and neither does it when one of them asks for an account. -/
theorem Area.recalculate_steady (a : Area) (s : Sessions) {ids : List String} {now : Instant}
    {unseen : Span} (hids : ids.Nodup) (hroute : 0 < a.route.length)
    (hlive : ids.filter (s.isLive · now unseen) ≠ []) (stirs : List Sessions.Stir) :
    let live := ids.filter (s.isLive · now unseen)
    let t := stirs.foldl Sessions.stir (a.recalculate ids now unseen s).2.2
    (∀ (b : Area) (later : Instant) (unseen : Span), b.route.length = a.route.length →
      ids.filter (t.isLive · later unseen) = live →
        ∀ id, (b.recalculate ids later unseen t).2.2.find? id = t.find? id) ∧
    ∀ {σ : Type} [Store σ] (f : Fleet σ) (b : Area) (worker : String) (host : Option String)
      (later : Instant), f.sessions.Distinct → (∀ id ∈ ids, f.sessions.walk? id = t.walk? id) →
      f.areas.find? b.id = some b → b.route.length = a.route.length → f.workersOf b.id = ids →
      ids.filter ((f.touch worker host later).sessions.isLive · later f.settings.unseen) = live →
        ∀ id ∈ ids,
          (f.assignAccount worker host later).2.sessions.walk? id = f.sessions.walk? id := by
  intro live t
  have ht : t.UnderWay ids live a.route.length :=
    .run (.of_partitionRoute s hids hroute rfl hlive) stirs
  constructor
  · intro b later unseen hlen hsame id
    rw [← hlen] at ht hroute
    exact ht.find?_partitionRoute hids hroute hsame hlive id
  · intro σ _ f b worker host later hd hwalk hb hlen hworkers hsame id hid
    rw [← hlen] at ht hroute
    exact Fleet.walk?_assignAccount hd (ht.of_walk?_eq hwalk) hroute hb hworkers hsame hlive hid

/-- A fleet with the sessions of `heldParts` after a cut and some turns, and a free account. -/
def underWay : Fleet Tables :=
  { (Fleet.new { Fleet.smallSettings with unseen := 5 } Fleet.smallStore).run
      [.perform .bootstrap .none 0] with
    areas := ⟨[fiveSteps]⟩
    sessions := [.advance "ada", .touch "cyd" none 14, .advance "cyd"].foldl Sessions.stir
      (fiveSteps.recalculate ["ada", "bob", "cyd"] 12 5 heldParts).2.2 }

/-- The workers go on in turns, and "cyd" is given an account. -/
theorem recalculate_steady_underWay :
    let ids := ["ada", "bob", "cyd"]
    ids.Nodup ∧ 0 < fiveSteps.route.length ∧ ids.filter (heldParts.isLive · 12 5) ≠ [] ∧
      ids.map underWay.sessions.walk? = [some ⟨⟨0, 2⟩, 0⟩, none, some ⟨⟨3, 4⟩, 4⟩] ∧
      (∀ id, (fiveSteps.recalculate ids 15 5 underWay.sessions).2.2.find? id =
        underWay.sessions.find? id) ∧
      (underWay.assignAccount "cyd" none 15).1 = .ok ⟨"ada", "pw"⟩ ∧
      ∀ id ∈ ids, (underWay.assignAccount "cyd" none 15).2.sessions.walk? id =
        underWay.sessions.walk? id := by
  intro ids
  have hsteady := fiveSteps.recalculate_steady heldParts (by decide : ids.Nodup) (by decide)
    (by decide : ids.filter (heldParts.isLive · 12 5) ≠ [])
    [.advance "ada", .touch "cyd" none 14, .advance "cyd"]
  have hdistinct : underWay.sessions.Distinct := by
    unfold Sessions.Distinct
    decide +kernel
  refine ⟨by decide, by decide, by decide, by decide, ?_, by decide +kernel, ?_⟩
  · exact hsteady.1 fiveSteps 15 5 rfl (by decide)
  · exact hsteady.2 underWay fiveSteps "cyd" none 15 hdistinct (fun _ _ => rfl) rfl rfl
      (by decide +kernel) (by decide +kernel)

end ScanFleet
