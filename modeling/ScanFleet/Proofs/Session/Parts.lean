import ScanFleet.Proofs.Area.Partition
import ScanFleet.Proofs.Session.Registry

/-! What a new cut of a route makes of the sessions of its area.  `Session.recut` says it for one
session; a cut that finds a live worker does that to each session of the area, and one that finds
none does nothing. -/

namespace ScanFleet

/-- The step that comes next is a step of the part. -/
def Walk.Within (w : Walk) : Prop := w.part.start ≤ w.step ∧ w.step ≤ w.part.last

namespace Walk

theorem within_assign (old : Option Walk) {p : Part} (hp : p.start ≤ p.last) :
    (assign old p).Within := by
  cases old with
  | none => exact ⟨Nat.le_refl _, hp⟩
  | some w =>
    by_cases hc : p.contains w.step
    · have hin : p.start ≤ w.step ∧ w.step ≤ p.last := by simpa [Part.contains] using hc
      simpa only [assign, Within, if_pos hc] using hin
    · rw [assign, if_neg hc]
      exact ⟨Nat.le_refl _, hp⟩

theorem part_assign (old : Option Walk) (p : Part) : (assign old p).part = p := by
  cases old <;> rfl

theorem Within.advance {w : Walk} (h : w.Within) : w.advance.Within := by
  obtain ⟨hlow, hhigh⟩ := h
  simp only [Walk.advance, Within]
  split <;> omega

end Walk

namespace Session

/-- A session after the route of its area, of so many steps, was cut for the workers `live`. -/
def recut (x : Session) (live : List String) (steps : Nat) : Session :=
  if x.id ∈ live ∧ 0 < steps then x.assign (part steps live.length (live.idxOf x.id))
  else x.clearWalk

/-- Sessions that differ in their walks at most. -/
structure SameButWalk (x y : Session) : Prop where
  id : y.id = x.id
  seq : y.seq = x.seq
  area : y.area = x.area
  username : y.username = x.username
  lastSeen : y.lastSeen = x.lastSeen
  usage : y.usage = x.usage

@[simp] theorem id_clearWalk (x : Session) : x.clearWalk.id = x.id := rfl

/-- A new part keeps a next step that lies in it, also that of a session without a walk. -/
theorem assign_eq (x : Session) (p : Part) :
    x.assign p = { x with walk := some ⟨p, if p.contains x.step then x.step else p.start⟩ } := by
  cases hw : x.walk with
  | some w => simp [assign, Walk.assign, step, hw]
  | none =>
    have hzero : (if p.contains 0 then 0 else p.start) = p.start := by
      split
      next h => simp [Part.contains] at h; omega
      next => rfl
    simp [assign, Walk.assign, step, hw, hzero]

/-- A cut changes the walk alone. -/
theorem clearWalk_recut (x : Session) (live : List String) (steps : Nat) :
    (x.recut live steps).clearWalk = x.clearWalk := by
  unfold recut
  split <;> rfl

theorem sameButWalk_recut (x : Session) (live : List String) (steps : Nat) :
    SameButWalk x (x.recut live steps) := by
  unfold recut
  split <;> exact ⟨rfl, rfl, rfl, rfl, rfl, rfl⟩

/-- A walk that is held after a cut goes along a part of the route. -/
theorem walk_recut {x : Session} {live : List String} {steps : Nat} {w : Walk}
    (h : (x.recut live steps).walk = some w) :
    x.id ∈ live ∧ w.Within ∧ w.part = part steps live.length (live.idxOf x.id) ∧
      w.part.last < steps := by
  unfold recut at h
  split at h
  next hx =>
    have hi := List.idxOf_lt_length_of_mem hx.1
    cases h
    rw [Walk.part_assign]
    exact ⟨hx.1, Walk.within_assign _ (part_start_le_last (by omega) _), rfl, part_last_lt hx.2 hi⟩
  next => cases h

end Session

namespace Sessions

/-! ### A cut for any workers -/

section Ids

variable {s : Sessions} {ids : List String} {now : Instant} {unseen : Span}

theorem fst_partitionRoute (s : Sessions) (ids : List String) (steps : Nat) (now : Instant)
    (unseen : Span) :
    (s.partitionRoute ids steps now unseen).1 =
      (ids.filter (s.isLive · now unseen)).length := by
  unfold partitionRoute
  dsimp only
  split
  next h => rw [List.isEmpty_iff.mp h, List.length_nil]
  next => rfl

theorem exists_find?_of_mem_live {live : List String}
    (hlive : ids.filter (s.isLive · now unseen) = live) {id : String} (hid : id ∈ live) :
    id ∈ ids ∧ ∃ x, s.find? id = some x := by
  subst hlive
  obtain ⟨hmem, hisLive⟩ := List.mem_filter.mp hid
  obtain ⟨x, hx, -⟩ := (Option.any_eq_true _ _).mp hisLive
  exact ⟨hmem, x, hx⟩

/-- A cut that finds no live worker changes nothing. -/
theorem partitionRoute_of_no_live (hlive : ids.filter (s.isLive · now unseen) = [])
    (steps : Nat) : s.partitionRoute ids steps now unseen = (0, s) := by
  simp only [partitionRoute, hlive, List.isEmpty_nil, if_true]

/-- The parts with the numbers from `first` on go to the sessions of a list in its order. -/
theorem list_assignAll {ids : List String} (hids : ids.Nodup) (p : Nat → Part) (first : Nat)
    (s : Sessions) :
    (s.assignAll (ids.zip ((List.range' first ids.length).map p))).list =
      s.list.map fun x => if x.id ∈ ids then x.assign (p (first + ids.idxOf x.id)) else x := by
  induction ids generalizing s first with
  | nil => simp [assignAll]
  | cons id ids ih =>
    obtain ⟨hid, hids⟩ := List.nodup_cons.mp hids
    have hstep : s.assignAll ((id :: ids).zip ((List.range' first (id :: ids).length).map p)) =
        (s.modify id (·.assign (p first))).assignAll
          (ids.zip ((List.range' (first + 1) ids.length).map p)) := rfl
    rw [hstep, ih hids, modify, List.map_map]
    refine List.map_congr_left fun x _ => ?_
    by_cases hx : x.id = id
    · -- Nobody is served twice, so the first part is the one that stays.
      subst hx
      simp [Session.assign, hid]
    · have hi : first + (List.idxOf x.id ids + 1) = first + 1 + List.idxOf x.id ids := by omega
      simp [hx, List.idxOf_cons_ne _ (Ne.symm hx), hi]

/-- A cut that finds a live worker gives each of the workers its due. -/
theorem list_partitionRoute_of_nodup (hids : ids.Nodup)
    (hlive : ids.filter (s.isLive · now unseen) ≠ []) (steps : Nat) :
    (s.partitionRoute ids steps now unseen).2.list = s.list.map fun x =>
      if x.id ∈ ids then x.recut (ids.filter (s.isLive · now unseen)) steps else x := by
  have hclear := list_modifyAll (f := Session.clearWalk) (fun _ => rfl) (fun _ => rfl)
  have hempty : (ids.filter (s.isLive · now unseen)).isEmpty = false := by simpa using hlive
  simp only [partitionRoute, hempty, Bool.false_eq_true, if_false]
  split
  next hsteps =>
    rw [hclear, hclear, List.map_map]
    refine List.map_congr_left fun x _ => ?_
    by_cases hx : x.id ∈ ids <;> by_cases hv : s.isLive x.id now unseen <;>
      simp [hx, hv, hsteps, Session.recut]
  next hsteps =>
    rw [partition, if_neg hsteps, List.range_eq_range', list_assignAll (hids.filter _), hclear,
      List.map_map]
    refine List.map_congr_left fun x _ => ?_
    by_cases hx : x.id ∈ ids <;> by_cases hv : s.isLive x.id now unseen <;>
      simp [hx, hv, Nat.pos_of_ne_zero hsteps, Session.recut]

/-- A cut that finds a live worker acts on what is found under an id. -/
theorem find?_partitionRoute (hids : ids.Nodup)
    (hlive : ids.filter (s.isLive · now unseen) ≠ []) (steps : Nat) (id : String) :
    (s.partitionRoute ids steps now unseen).2.find? id = (s.find? id).map fun x =>
      if x.id ∈ ids then x.recut (ids.filter (s.isLive · now unseen)) steps else x := by
  rw [find?, list_partitionRoute_of_nodup hids hlive]
  refine Keyed.find?_map (k := fun x : Session => x.id) (fun x => ?_) s.list id
  split
  · exact (x.sameButWalk_recut _ _).id
  · rfl

theorem find?_partitionRoute_of_mem {live : List String} (hids : ids.Nodup)
    (hlive : ids.filter (s.isLive · now unseen) = live) (hne : live ≠ [])
    {id : String} (hid : id ∈ ids) (steps : Nat) :
    (s.partitionRoute ids steps now unseen).2.find? id =
      (s.find? id).map (·.recut live steps) := by
  subst hlive
  rw [find?_partitionRoute hids hne]
  refine Option.map_congr fun x hx => ?_
  rw [id_of_find? hx, if_pos hid]

theorem find?_partitionRoute_of_not_mem (hids : ids.Nodup)
    (hlive : ids.filter (s.isLive · now unseen) ≠ []) {id : String} (hid : id ∉ ids) (steps : Nat) :
    (s.partitionRoute ids steps now unseen).2.find? id = s.find? id := by
  rw [find?_partitionRoute hids hlive]
  cases hx : s.find? id with
  | none => rfl
  | some x => rw [Option.map_some, id_of_find? hx, if_neg hid]

end Ids

/-! ### A cut for the workers of an area -/

def liveIds (s : Sessions) (area : Int) (now : Instant) (unseen : Span) : List String :=
  (s.liveIn area now unseen).map (·.id)

variable {s : Sessions} {area : Int} {now : Instant} {unseen : Span}

theorem mem_liveIds (h : s.Distinct) {x : Session} (hx : x ∈ s.list) :
    x.id ∈ s.liveIds area now unseen ↔ x.area = some area ∧ x.isLive now unseen := by
  rw [liveIds, liveIn, inArea, List.filter_filter, mem_ids_filter h hx]
  simp [and_comm]

theorem liveIn_map {k : Session → Session} {s' : Sessions} (hlist : s'.list = s.list.map k)
    (harea : ∀ x, (k x).area = x.area) (hseen : ∀ x, (k x).lastSeen = x.lastSeen) :
    s'.liveIn area now unseen = (s.liveIn area now unseen).map k := by
  have hin : (fun x : Session => decide (x.area = some area)) ∘ k =
      fun x => decide (x.area = some area) := funext fun x => by simp [harea]
  have hlive : (fun x : Session => x.isLive now unseen) ∘ k = fun x => x.isLive now unseen :=
    funext fun x => by simp [Session.isLive, hseen]
  rw [liveIn, inArea, hlist, List.filter_map, List.filter_map, hin, hlive, liveIn, inArea]

theorem liveIds_map {k : Session → Session} {s' : Sessions} (hlist : s'.list = s.list.map k)
    (hid : ∀ x, (k x).id = x.id) (harea : ∀ x, (k x).area = x.area)
    (hseen : ∀ x, (k x).lastSeen = x.lastSeen) :
    s'.liveIds area now unseen = s.liveIds area now unseen := by
  rw [liveIds, liveIn_map hlist harea hseen, List.map_map, liveIds]
  exact List.map_congr_left fun x _ => hid x

theorem nodup_liveIds (h : s.Distinct) : (s.liveIds area now unseen).Nodup := by
  rw [liveIds, liveIn, inArea, List.filter_filter]
  exact h.filter _

theorem liveIds_eq_nil_iff :
    s.liveIds area now unseen = [] ↔
      ∀ x ∈ s.list, x.area = some area → ¬ x.isLive now unseen := by
  rw [liveIds, List.map_eq_nil_iff, List.eq_nil_iff_forall_not_mem]
  simp only [mem_liveIn, not_and]

theorem filter_isLive (h : s.Distinct) (area : Int) (now : Instant) (unseen : Span) :
    ((s.inArea area).map (·.id)).filter (s.isLive · now unseen) = s.liveIds area now unseen := by
  rw [List.filter_map, liveIds, liveIn]
  congr 1
  refine List.filter_congr fun x hx => ?_
  simp [isLive, find?_of_mem h (mem_inArea.mp hx).1]

theorem partitionRoute_eq_self (h : s.Distinct) (hlive : s.liveIds area now unseen = [])
    (steps : Nat) :
    s.partitionRoute ((s.inArea area).map (·.id)) steps now unseen = (0, s) :=
  partitionRoute_of_no_live ((filter_isLive h area now unseen).trans hlive) steps

/-- A cut with a live worker gives each session of the area its due. -/
theorem list_partitionRoute (h : s.Distinct) (hlive : s.liveIds area now unseen ≠ [])
    (steps : Nat) :
    (s.partitionRoute ((s.inArea area).map (·.id)) steps now unseen).2.list =
      s.list.map fun x =>
        if x.area = some area then x.recut (s.liveIds area now unseen) steps else x := by
  have hids : ((s.inArea area).map (·.id)).Nodup := h.filter _
  rw [← filter_isLive h] at hlive ⊢
  rw [list_partitionRoute_of_nodup hids hlive]
  refine List.map_congr_left fun x hx => ?_
  have hmem : x.id ∈ (s.inArea area).map (·.id) ↔ x.area = some area := by
    rw [inArea, mem_ids_filter h hx, decide_eq_true_iff]
  simp only [hmem]

/-- The cut of a route with steps gives the live workers its parts in order. -/
theorem parts_recut (h : s.Distinct) (steps : Nat) :
    (s.liveIn area now unseen).map (fun x =>
        (x.recut (s.liveIds area now unseen) steps).walk.map (·.part)) =
      if steps = 0 then List.replicate (s.liveIn area now unseen).length none
      else (partition steps (s.liveIn area now unseen).length).map some := by
  have hlen : (s.liveIds area now unseen).length = (s.liveIn area now unseen).length := by
    simp [liveIds]
  split
  next hsteps =>
    rw [← List.map_const']
    refine List.map_congr_left fun x _ => ?_
    rw [Session.recut, if_neg (by omega)]
    rfl
  next hsteps =>
    rw [partition, if_neg hsteps]
    refine List.ext_getElem (by simp) fun i hi _ => ?_
    have hlt : i < (s.liveIn area now unseen).length := by simpa using hi
    have hget : (s.liveIn area now unseen)[i].id = (s.liveIds area now unseen)[i] := by
      simp [liveIds]
    have hmem : (s.liveIn area now unseen)[i].id ∈ s.liveIds area now unseen :=
      List.mem_map_of_mem (List.getElem_mem hlt)
    have hidx : (s.liveIds area now unseen).idxOf (s.liveIn area now unseen)[i].id = i := by
      rw [hget]
      exact (nodup_liveIds h).idxOf_getElem i (by rw [hlen]; exact hlt)
    rw [List.getElem_map, Session.recut, if_pos ⟨hmem, by omega⟩, hidx, hlen]
    simp [Session.assign, Walk.part_assign]

/-- After a cut every step of the route is in the part of a live worker. -/
theorem exists_recut_contains (h : s.Distinct) (hlive : s.liveIds area now unseen ≠ [])
    {steps k : Nat} (hk : k < steps) :
    ∃ x ∈ s.liveIn area now unseen, ∃ w,
      (x.recut (s.liveIds area now unseen) steps).walk = some w ∧ w.part.contains k := by
  obtain ⟨i, hi, hc⟩ := exists_part_contains (List.length_pos_iff.mpr hlive) hk
  have hlen : i < (s.liveIn area now unseen).length := by simpa [liveIds] using hi
  have hget : (s.liveIds area now unseen)[i] = (s.liveIn area now unseen)[i].id := by
    simp [liveIds]
  refine ⟨(s.liveIn area now unseen)[i], List.getElem_mem hlen, ?_⟩
  have hmem : (s.liveIn area now unseen)[i].id ∈ s.liveIds area now unseen := by
    rw [← hget]
    exact List.getElem_mem hi
  have hidx : (s.liveIds area now unseen).idxOf (s.liveIn area now unseen)[i].id = i := by
    rw [← hget]
    exact (nodup_liveIds h).idxOf_getElem i hi
  rw [Session.recut, if_pos ⟨hmem, by omega⟩, hidx]
  exact ⟨_, rfl, by rwa [Walk.part_assign]⟩

end Sessions

end ScanFleet
