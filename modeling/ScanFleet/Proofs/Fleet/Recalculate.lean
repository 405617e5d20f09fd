import ScanFleet.Proofs.Area.Registry
import ScanFleet.Proofs.Fleet.Accounts
import ScanFleet.Proofs.Session.Parts

/-! A new cut of an area's route, as the fleet makes it.  It changes nothing but the sessions of the
area, and those only when one of them is live. -/

namespace ScanFleet.Fleet

variable {σ : Type} {f : Fleet σ} {area : Int} {now : Instant}

def liveIds (f : Fleet σ) (area : Int) (now : Instant) : List String :=
  f.sessions.liveIds area now f.settings.unseen

def route? (f : Fleet σ) (area : Int) : Option Route := f.areas.route? area

theorem recalculate_settings (f : Fleet σ) (area : Int) (now : Instant) :
    (f.recalculate area now).2.settings = f.settings := by
  unfold recalculate
  split <;> rfl

theorem recalculate_pool (f : Fleet σ) (area : Int) (now : Instant) :
    (f.recalculate area now).2.pool = f.pool := by
  unfold recalculate
  split <;> rfl

theorem route?_recalculate (f : Fleet σ) (area : Int) (now : Instant) (id : Int) :
    (f.recalculate area now).2.route? id = f.route? id := by
  unfold recalculate
  split
  · rfl
  next a ha =>
    have he := Areas.id_of_find? ha
    subst he
    exact Areas.route?_replace ha (Area.samePlan_recalculate a _ _ _ _) id

theorem sessions_recalculate {r : Route} (hr : f.route? area = some r) :
    (f.recalculate area now).2.sessions =
      (f.sessions.partitionRoute (f.workersOf area) r.length now f.settings.unseen).2 := by
  obtain ⟨a, ha, rfl⟩ := Option.map_eq_some_iff.mp hr
  simp only [recalculate, ha]
  rfl

/-- A cut that finds a live worker gives each session of the area its due. -/
theorem list_recalculate (hd : f.sessions.Distinct) {r : Route} (hr : f.route? area = some r)
    (hlive : f.liveIds area now ≠ []) :
    (f.recalculate area now).2.sessions.list = f.sessions.list.map fun x =>
      if x.area = some area then x.recut (f.liveIds area now) r.length else x := by
  rw [sessions_recalculate hr]
  exact Sessions.list_partitionRoute hd hlive r.length

/-- A cut that finds no live worker changes no session. -/
theorem sessions_recalculate_eq_self (hd : f.sessions.Distinct)
    (h : f.route? area = none ∨ f.liveIds area now = []) :
    (f.recalculate area now).2.sessions = f.sessions := by
  cases hr : f.route? area with
  | none =>
    have hnone : f.areas.find? area = none := Option.map_eq_none_iff.mp hr
    simp only [recalculate, hnone]
  | some r =>
    have hlive : f.liveIds area now = [] := h.resolve_left (by simp [hr])
    rw [sessions_recalculate hr]
    exact congrArg Prod.snd (Sessions.partitionRoute_eq_self hd hlive r.length)

theorem exists_list_recalculate (f : Fleet σ) (area : Int) (now : Instant) :
    ∃ list, (f.recalculate area now).2.sessions = { f.sessions with list } := by
  unfold recalculate
  split
  · exact ⟨f.sessions.list, rfl⟩
  · exact Sessions.exists_list_partitionRoute _ _ _ _ _

/-- A cut changes the walks of the area's workers at most. -/
theorem map_recalculate (hd : f.sessions.Distinct) (area : Int) (now : Instant) :
    ∃ k : Session → Session, (f.recalculate area now).2.sessions.list = f.sessions.list.map k ∧
      ∀ x, x.SameButWalk (k x) ∧ (x.area ≠ some area → k x = x) := by
  by_cases h : f.route? area = none ∨ f.liveIds area now = []
  · refine ⟨id, ?_, fun x => ⟨⟨rfl, rfl, rfl, rfl, rfl, rfl⟩, fun _ => rfl⟩⟩
    rw [sessions_recalculate_eq_self hd h, List.map_id]
  · rw [not_or] at h
    obtain ⟨r, hr⟩ := Option.ne_none_iff_exists'.mp h.1
    refine ⟨_, list_recalculate hd hr h.2, fun x => ?_⟩
    split
    next ha => exact ⟨x.sameButWalk_recut _ _, fun hne => absurd ha hne⟩
    next => exact ⟨⟨rfl, rfl, rfl, rfl, rfl, rfl⟩, fun _ => rfl⟩

theorem liveIds_recalculate (hd : f.sessions.Distinct) (other : Int) :
    (f.recalculate other now).2.liveIds area now = f.liveIds area now := by
  obtain ⟨k, hk, hsame⟩ := map_recalculate hd other now
  rw [liveIds, recalculate_settings]
  exact Sessions.liveIds_map hk (fun x => (hsame x).1.id) (fun x => (hsame x).1.area)
    fun x => (hsame x).1.lastSeen

theorem distinct_recalculate (hd : f.sessions.Distinct) (area : Int) (now : Instant) :
    (f.recalculate area now).2.sessions.Distinct := by
  obtain ⟨k, hk, hsame⟩ := map_recalculate hd area now
  rw [Sessions.Distinct, hk]
  exact Sessions.Distinct.map (fun x => (hsame x).1.id) hd

end ScanFleet.Fleet
