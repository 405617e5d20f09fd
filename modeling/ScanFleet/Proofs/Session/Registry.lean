import ScanFleet.Proofs.Keyed
import ScanFleet.Session.Registry

/-! The sessions as a map from workers.  No worker has two sessions, and every operation keeps it
so: a session is created only for a worker without one, and all other changes keep the workers. -/

namespace ScanFleet.Sessions

/-- No worker has two sessions. -/
def Distinct (s : Sessions) : Prop := (s.list.map (·.id)).Nodup

theorem distinct_empty (limits : UsageLimits) : Distinct (.empty limits) := List.nodup_nil

theorem find?_eq_some_iff {s : Sessions} (h : s.Distinct) {id : String} {x : Session} :
    s.find? id = some x ↔ x ∈ s.list ∧ x.id = id :=
  Keyed.find?_eq_some_iff (k := fun x : Session => x.id) h

theorem mem_of_find? {s : Sessions} {id : String} {x : Session} (h : s.find? id = some x) :
    x ∈ s.list :=
  List.mem_of_find?_eq_some h

theorem id_of_find? {s : Sessions} {id : String} {x : Session} (h : s.find? id = some x) :
    x.id = id :=
  Keyed.key_of_find? (k := fun x : Session => x.id) h

theorem find?_of_mem {s : Sessions} (h : s.Distinct) {x : Session} (hx : x ∈ s.list) :
    s.find? x.id = some x :=
  (find?_eq_some_iff h).mpr ⟨hx, rfl⟩

theorem find?_eq_none_iff {s : Sessions} {id : String} :
    s.find? id = none ↔ ∀ x ∈ s.list, x.id ≠ id := by
  simp [find?]

theorem eq_of_id {s : Sessions} (h : s.Distinct) {x y : Session} (hx : x ∈ s.list)
    (hy : y ∈ s.list) (he : x.id = y.id) : x = y :=
  Keyed.eq_of_key (k := fun x : Session => x.id) h hx hy he

theorem mem_ids_filter {s : Sessions} (h : s.Distinct) {x : Session} (hx : x ∈ s.list)
    (p : Session → Bool) : x.id ∈ (s.list.filter p).map (·.id) ↔ p x := by
  simp only [List.mem_map, List.mem_filter]
  refine ⟨?_, fun hp => ⟨x, ⟨hx, hp⟩, rfl⟩⟩
  rintro ⟨y, ⟨hy, hp⟩, he⟩
  rwa [← eq_of_id h hy hx he]

theorem Distinct.filter {s : Sessions} (h : s.Distinct) (p : Session → Bool) :
    ((s.list.filter p).map (·.id)).Nodup :=
  List.Nodup.sublist (List.filter_sublist.map _) h

theorem mem_inArea {s : Sessions} {area : Int} {x : Session} :
    x ∈ s.inArea area ↔ x ∈ s.list ∧ x.area = some area := by
  simp [inArea]

theorem mem_liveIn {s : Sessions} {area : Int} {now : Instant} {unseen : Span} {x : Session} :
    x ∈ s.liveIn area now unseen ↔
      x ∈ s.list ∧ x.area = some area ∧ x.isLive now unseen := by
  simp [liveIn, mem_inArea, and_assoc]

/-! ### Changes of sessions -/

section Modify

variable {f : Session → Session} (hf : ∀ x, (f x).id = x.id)
include hf

theorem Distinct.map {s : Sessions} (h : s.Distinct) :
    Distinct { s with list := s.list.map f } := by
  rw [Distinct, List.map_map]
  have hid : (fun x : Session => x.id) ∘ f = fun x => x.id := funext hf
  rw [hid]
  exact h

theorem find?_modify (s : Sessions) (id v : String) :
    (s.modify id f).find? v = if v = id then (s.find? v).map f else s.find? v := by
  have hg : ∀ x : Session, (if x.id = id then f x else x).id = x.id := fun x => by
    split
    · exact hf x
    · rfl
  rw [find?, Sessions.modify, Keyed.find?_map (k := fun x : Session => x.id) hg, ← find?]
  cases hx : s.find? v with
  | none => simp
  | some x => by_cases hv : v = id <;> simp [id_of_find? hx, hv]

theorem bind_find?_modify {β : Type} {k : Session → Option β} (hk : ∀ x, k (f x) = k x)
    (s : Sessions) (id v : String) : ((s.modify id f).find? v).bind k = (s.find? v).bind k := by
  rw [find?_modify hf]
  split
  · cases s.find? v <;> simp [hk]
  · rfl

theorem Distinct.modify {s : Sessions} (h : s.Distinct) (id : String) :
    (s.modify id f).Distinct :=
  h.map fun x => by
    split
    · exact hf x
    · rfl

/-- A change that may as well be made twice can be made for several workers at once. -/
theorem list_modifyAll (hff : ∀ x, f (f x) = f x) (s : Sessions) (ids : List String) :
    (s.modifyAll ids f).list = s.list.map fun x => if x.id ∈ ids then f x else x := by
  induction ids generalizing s with
  | nil => simp [modifyAll]
  | cons id ids ih =>
    have hstep : s.modifyAll (id :: ids) f = (s.modify id f).modifyAll ids f := rfl
    rw [hstep, ih, Sessions.modify, List.map_map]
    refine List.map_congr_left fun x _ => ?_
    by_cases hx : x.id = id <;> by_cases hm : x.id ∈ ids <;> simp_all

end Modify

theorem exists_list_modifyAll (s : Sessions) (ids : List String) (f : Session → Session) :
    ∃ list, s.modifyAll ids f = { s with list } := by
  induction ids generalizing s with
  | nil => exact ⟨s.list, rfl⟩
  | cons id ids ih => exact ih (s.modify id f)

theorem exists_list_assignAll (s : Sessions) (parts : List (String × Part)) :
    ∃ list, s.assignAll parts = { s with list } := by
  induction parts generalizing s with
  | nil => exact ⟨s.list, rfl⟩
  | cons p parts ih => exact ih (s.modify p.1 (·.assign p.2))

/-- A cut changes nothing but the list of sessions. -/
theorem exists_list_partitionRoute (s : Sessions) (ids : List String) (steps : Nat)
    (now : Instant) (unseen : Span) :
    ∃ list, (s.partitionRoute ids steps now unseen).2 = { s with list } := by
  unfold partitionRoute
  dsimp only
  split
  · exact ⟨s.list, rfl⟩
  · obtain ⟨cleared, hcleared⟩ := s.exists_list_modifyAll _ .clearWalk
    rw [hcleared]
    split
    · exact exists_list_modifyAll _ _ _
    · exact exists_list_assignAll _ _

/-! ### Creation and removal -/

theorem find?_ensure (s : Sessions) (id : String) (now : Instant) (v : String) :
    (s.ensure id now).find? v =
      if v = id then some ((s.find? id).getD (.new id s.next now)) else s.find? v := by
  unfold ensure
  split
  next x hx =>
    split
    next hv => rw [hv, hx, Option.getD_some]
    next => rfl
  next hx =>
    rw [find?, List.find?_append, ← find?, hx, Option.getD_none]
    split
    next hv => simp [hv, hx, Session.new]
    next hv => cases s.find? v <;> simp [Session.new, Ne.symm hv]

theorem limits_touch (s : Sessions) (id : String) (host : Option String) (now : Instant) :
    (s.touch id host now).limits = s.limits := by
  unfold touch ensure
  split <;> rfl

theorem list_touch (s : Sessions) (id : String) (host : Option String) (now : Instant) :
    (s.touch id host now).list =
      (s.list.map fun x => if x.id = id then x.touch host now else x) ++
        if (s.find? id).isSome then [] else [(Session.new id s.next now).touch host now] := by
  unfold touch ensure
  cases s.find? id with
  | some x => simp [modify]
  | none => simp [modify, Session.new]

theorem Distinct.touch {s : Sessions} (h : s.Distinct) (id : String) (host : Option String)
    (now : Instant) : (s.touch id host now).Distinct := by
  have hold := Distinct.modify (f := (·.touch host now)) (fun _ => rfl) h id
  rw [Distinct, list_touch]
  cases hx : s.find? id with
  | some x =>
    rw [Option.isSome_some, if_pos rfl, List.append_nil]
    exact hold
  | none =>
    rw [Option.isSome_none, if_neg (by simp), List.map_append, List.nodup_append]
    refine ⟨hold, by simp, ?_⟩
    intro a ha b hb
    simp only [List.map_cons, List.map_nil, List.mem_singleton] at hb
    simp only [List.map_map, List.mem_map, Function.comp_apply] at ha
    obtain ⟨x, hmem, rfl⟩ := ha
    have hne := find?_eq_none_iff.mp hx x hmem
    rw [hb, if_neg hne]
    exact hne

/-- Who was seen has its session, or a new one if it had none. -/
theorem find?_touch_eq (s : Sessions) (id : String) (host : Option String) (now : Instant)
    (v : String) :
    (s.touch id host now).find? v =
      if v = id then some (((s.find? id).getD (.new id s.next now)).touch host now)
      else s.find? v := by
  rw [touch, find?_modify (f := (·.touch host now)) (fun _ => rfl), find?_ensure]
  split <;> rfl

theorem isSome_find?_touch (s : Sessions) (id : String) (host : Option String) (now : Instant) :
    ((s.touch id host now).find? id).isSome := by
  rw [find?_touch_eq, if_pos rfl]
  rfl

/-- What a visit leaves alone in a session, and a new session does not have, stays as it was for
every worker. -/
theorem bind_find?_touch {β : Type} {k : Session → Option β}
    (htouch : ∀ x host now, k (x.touch host now) = k x)
    (hnew : ∀ id seq now, k (.new id seq now) = none) (s : Sessions) (id : String)
    (host : Option String) (now : Instant) (v : String) :
    ((s.touch id host now).find? v).bind k = (s.find? v).bind k := by
  rw [find?_touch_eq]
  split
  next h =>
    subst h
    cases hx : s.find? v <;> simp [htouch, hnew]
  next => rfl

theorem find?_touch {s : Sessions} {id : String} {x : Session} (h : s.find? id = some x)
    (host : Option String) (now : Instant) :
    (s.touch id host now).find? id = some (x.touch host now) := by
  rw [find?_touch_eq, if_pos rfl, h, Option.getD_some]

theorem mem_remove {s : Sessions} {id : String} {x : Session} :
    x ∈ (s.remove id).list ↔ x ∈ s.list ∧ x.id ≠ id := by
  simp [remove]

theorem find?_remove (s : Sessions) (id v : String) :
    (s.remove id).find? v = if v = id then none else s.find? v := by
  rw [find?, remove, List.find?_filter]
  split
  next h => subst h; simp
  next h =>
    rw [find?]
    congr 1
    funext x
    by_cases hx : x.id = v <;> simp [hx, h]

theorem Distinct.remove {s : Sessions} (h : s.Distinct) (id : String) : (s.remove id).Distinct :=
  h.filter _

/-! ### The order of creation -/

/-- The sessions are listed in the order of their creation. -/
structure Ordered (s : Sessions) : Prop where
  pairwise : s.list.Pairwise (·.seq < ·.seq)
  below : ∀ x ∈ s.list, x.seq < s.next

theorem ordered_empty (limits : UsageLimits) : Ordered (.empty limits) :=
  ⟨List.Pairwise.nil, fun _ hx => by cases hx⟩

namespace Ordered

variable {s s' : Sessions} {f : Session → Session}

theorem nodup (h : s.Ordered) : (s.list.map (·.seq)).Nodup :=
  List.pairwise_map.mpr (h.pairwise.imp Nat.ne_of_lt)

theorem map (h : s.Ordered) (hf : ∀ x, (f x).seq = x.seq) (hlist : s'.list = s.list.map f)
    (hnext : s'.next = s.next) : s'.Ordered := by
  constructor
  · rw [hlist, List.pairwise_map]
    simp only [hf]
    exact h.pairwise
  · rw [hlist, hnext]
    simp only [List.forall_mem_map, hf]
    exact h.below

theorem modify (h : s.Ordered) (hf : ∀ x, (f x).seq = x.seq) (id : String) :
    (s.modify id f).Ordered := by
  refine h.map (f := fun x => if x.id = id then f x else x) (fun x => ?_) rfl rfl
  split
  · exact hf x
  · rfl

theorem remove (h : s.Ordered) (id : String) : (s.remove id).Ordered :=
  ⟨h.pairwise.filter _, fun x hx => h.below x (mem_remove.mp hx).1⟩

theorem ensure (h : s.Ordered) (id : String) (now : Instant) : (s.ensure id now).Ordered := by
  unfold Sessions.ensure
  split
  · exact h
  · constructor
    · rw [List.pairwise_append]
      refine ⟨h.pairwise, List.pairwise_singleton _ _, fun x hx y hy => ?_⟩
      rw [List.mem_singleton.mp hy]
      exact h.below x hx
    · intro x hx
      rcases List.mem_append.mp hx with hx | hx
      · exact Nat.lt_succ_of_lt (h.below x hx)
      · rw [List.mem_singleton.mp hx]
        exact Nat.lt_succ_self s.next

theorem touch (h : s.Ordered) (id : String) (host : Option String) (now : Instant) :
    (s.touch id host now).Ordered := (h.ensure id now).modify (by intro; rfl) id

end Ordered

end ScanFleet.Sessions
