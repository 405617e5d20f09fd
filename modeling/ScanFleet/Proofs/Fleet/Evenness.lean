import ScanFleet.Proofs.Area.Reconciliation
import ScanFleet.Proofs.Fleet.Run

/-! How areas fill up.  While all workers are live and do nothing but ask for an area, a worker
without one is bound to the area with the fewest workers of those that want more.  So an area that
wants more has at most one worker fewer than any other area, and none gets more than it wants. -/

namespace ScanFleet

namespace Areas

theorem targets_replace {as : Areas} (h : as.Ascending) {a b : Area} (ha : as.find? a.id = some a)
    (hb : a.SamePlan b) : ((as.replace b).list.map fun c => (c.id, c.target)) =
      as.list.map fun c => (c.id, c.target) := by
  rw [replace, List.map_map]
  refine List.map_congr_left fun c hc => ?_
  simp only [Function.comp_apply]
  split
  next hid =>
    have hca : c = a := Keyed.eq_of_key (k := Area.id) h.nodup hc (List.mem_of_find?_eq_some ha)
      (hid.trans hb.id)
    rw [hca, hb.id, hb.target]
  next => rfl

end Areas

namespace Fleet

variable {σ : Type}

/-- The areas with the numbers of live workers that they want. -/
def targets (f : Fleet σ) : List (Int × Nat) := f.areas.list.map fun a => (a.id, a.target)

def liveCount (f : Fleet σ) (area : Int) (now : Instant) : Nat :=
  (f.sessions.liveIn area now f.settings.unseen).length

def areaOf (f : Fleet σ) (worker : String) : Option Int :=
  (f.sessions.find? worker).bind (·.area)

def AllLive (f : Fleet σ) (now : Instant) : Prop :=
  ∀ x ∈ f.sessions.list, x.isLive now f.settings.unseen

/-- The area wants a worker, and of those that do it has the fewest live ones; with a lower id none
has as few. -/
structure Neediest (f : Fleet σ) (now : Instant) (area : Int) : Prop where
  wants : ∃ target, (area, target) ∈ f.targets ∧ f.liveCount area now < target
  least : ∀ other target, (other, target) ∈ f.targets → f.liveCount other now < target →
    f.liveCount area now ≤ f.liveCount other now ∧
      (other < area → f.liveCount area now < f.liveCount other now)

/-- A worker asks for an area, and all workers are live then. -/
def AsksWhileLive [Store σ] (f : Fleet σ) : Event σ → Prop
  | .perform (.initWorker worker host) _ now => (f.touch worker host now).AllLive now
  | _ => False

instance (f : Fleet σ) (now : Instant) : Decidable (f.AllLive now) :=
  inferInstanceAs (Decidable (∀ x ∈ f.sessions.list, x.isLive now f.settings.unseen))

instance [Store σ] (f : Fleet σ) : DecidablePred f.AsksWhileLive := fun e => by
  unfold AsksWhileLive
  split <;> infer_instance

/-! ### Bindings -/

/-- The workers with the areas that they are bound to. -/
def bindings (f : Fleet σ) : List (String × Option Int) :=
  f.sessions.list.map fun x => (x.id, x.area)

def crew (f : Fleet σ) (area : Int) : Nat := f.bindings.countP (·.2 = some area)

variable {f g : Fleet σ} {worker : String} {host : Option String} {now : Instant}

theorem crew_eq (f : Fleet σ) (area : Int) : f.crew area = (f.sessions.inArea area).length := by
  rw [crew, bindings, List.countP_map, List.countP_eq_length_filter]
  rfl

theorem liveCount_le_crew (f : Fleet σ) (area : Int) (now : Instant) :
    f.liveCount area now ≤ f.crew area := by
  rw [crew_eq]
  exact List.length_filter_le _ _

theorem AllLive.liveCount (h : f.AllLive now) (area : Int) :
    f.liveCount area now = f.crew area := by
  rw [crew_eq, Fleet.liveCount, Sessions.liveIn, List.filter_eq_self.mpr]
  exact fun x hx => h x (Sessions.mem_inArea.mp hx).1

theorem areaOf_eq (f : Fleet σ) (worker : String) :
    f.areaOf worker = (f.bindings.find? (·.1 = worker)).bind (·.2) := by
  rw [areaOf, bindings, List.find?_map, Option.bind_map]
  rfl

theorem nodup_bindings (h : f.sessions.Distinct) : (f.bindings.map Prod.fst).Nodup := by
  rw [bindings, List.map_map]
  exact h

theorem mem_bindings (h : (f.sessions.find? worker).isSome) :
    (worker, f.areaOf worker) ∈ f.bindings := by
  obtain ⟨x, hx⟩ := Option.isSome_iff_exists.mp h
  obtain rfl := Sessions.id_of_find? hx
  rw [areaOf, hx]
  exact List.mem_map_of_mem (Sessions.mem_of_find? hx)

/-- Who was seen is bound to the area that it was bound to; a new session is bound to none. -/
theorem bindings_touch (f : Fleet σ) (worker : String) (host : Option String) (now : Instant) :
    (f.touch worker host now).bindings =
      f.bindings ++ if (f.sessions.find? worker).isSome then [] else [(worker, none)] := by
  rw [bindings, touch, Sessions.list_touch, List.map_append, List.map_map]
  congr 1
  · refine List.map_congr_left fun x _ => ?_
    simp only [Function.comp_apply]
    split <;> rfl
  · split <;> rfl

theorem crew_touch (f : Fleet σ) (worker : String) (host : Option String) (now : Instant)
    (area : Int) : (f.touch worker host now).crew area = f.crew area := by
  rw [crew, bindings_touch, List.countP_append]
  split <;> simp [crew]

theorem areaOf_touch (f : Fleet σ) (worker : String) (host : Option String) (now : Instant)
    (w : String) : (f.touch worker host now).areaOf w = f.areaOf w :=
  Sessions.bind_find?_touch (fun _ _ _ => rfl) (fun _ _ _ => rfl) f.sessions worker host now w

/-- Fleets with the same areas, as many workers wanted, and the same bindings. -/
structure SameCrews (f g : Fleet σ) : Prop where
  targets : g.targets = f.targets
  bindings : g.bindings = f.bindings

namespace SameCrews

theorem refl (f : Fleet σ) : SameCrews f f := ⟨rfl, rfl⟩

theorem trans {k : Fleet σ} (h : SameCrews f g) (h' : SameCrews g k) : SameCrews f k :=
  ⟨h'.targets.trans h.targets, h'.bindings.trans h.bindings⟩

theorem crew (h : SameCrews f g) (area : Int) : g.crew area = f.crew area := by
  rw [Fleet.crew, h.bindings, Fleet.crew]

theorem areaOf (h : SameCrews f g) (worker : String) : g.areaOf worker = f.areaOf worker := by
  rw [areaOf_eq, h.bindings, ← areaOf_eq]

end SameCrews

theorem SameWork.sameCrews (h : SameWork f g) : SameCrews f g := by
  constructor
  · rw [targets, h.areas, targets]
  · rw [bindings, h.sessions, bindings]

theorem sameCrews_recalculate (hd : f.sessions.Distinct) (has : f.areas.Ascending) (area : Int)
    (now : Instant) : SameCrews f (f.recalculate area now).2 := by
  constructor
  · unfold recalculate
    split
    · rfl
    next a ha =>
      have hid := Areas.id_of_find? ha
      subst hid
      exact Areas.targets_replace has ha (a.samePlan_recalculate _ _ _ _)
  · obtain ⟨k, hk, hsame⟩ := map_recalculate hd area now
    rw [bindings, hk, List.map_map]
    exact List.map_congr_left fun x _ => Prod.ext (hsame x).1.id (hsame x).1.area

theorem bindings_bindArea (f : Fleet σ) (worker : String) (area : Int) :
    (f.modifySession worker (·.bindArea area)).bindings =
      f.bindings.map fun p => if p.1 = worker then (p.1, some area) else p := by
  rw [bindings, modifySession, Sessions.modify, List.map_map, bindings, List.map_map]
  refine List.map_congr_left fun x _ => ?_
  simp only [Function.comp_apply]
  split <;> rfl

/-- A worker that is bound to an area is one more there. -/
theorem crew_bindArea (hd : f.sessions.Distinct) (hworker : (worker, none) ∈ f.bindings)
    (area other : Int) : (f.modifySession worker (·.bindArea area)).crew other =
      f.crew other + if other = area then 1 else 0 := by
  have hcount := Keyed.countP_change (fun p : String × Option Int => decide (p.2 = some other))
    (fun p => (p.1, some area)) (nodup_bindings hd) hworker
  rw [crew, bindings_bindArea, crew]
  simpa [eq_comm] using hcount

theorem areaOf_bindArea (hworker : (f.sessions.find? worker).isSome) (area : Int) (w : String) :
    (f.modifySession worker (·.bindArea area)).areaOf w =
      if w = worker then some area else f.areaOf w := by
  rw [areaOf, modifySession, Sessions.find?_modify (f := (·.bindArea area)) (fun _ => rfl)]
  split
  next hw =>
    subst hw
    obtain ⟨x, hx⟩ := Option.isSome_iff_exists.mp hworker
    rw [hx]
    rfl
  next => rfl

/-! ### Evenly filled areas -/

/-- Workers are bound to registered areas alone, no area has more of them than it wants, and one
that wants more has at most one fewer than any other. -/
structure Filled (f : Fleet σ) : Prop where
  sessions : f.sessions.Distinct
  areas : f.areas.Ascending
  registered : ∀ p ∈ f.bindings, ∀ a, p.2 = some a → a ∈ f.areas.ids
  within : ∀ p ∈ f.targets, f.crew p.1 ≤ p.2
  even : ∀ p ∈ f.targets, ∀ q ∈ f.targets, f.crew q.1 < q.2 → f.crew p.1 ≤ f.crew q.1 + 1

theorem ids_eq (f : Fleet σ) : f.areas.ids = f.targets.map Prod.fst := by
  rw [targets, List.map_map]
  rfl

namespace Filled

theorem of_free (hsessions : f.sessions.Distinct) (hareas : f.areas.Ascending)
    (hfree : ∀ x ∈ f.sessions.list, x.area = none) : f.Filled := by
  have hnone : ∀ p ∈ f.bindings, p.2 = none := List.forall_mem_map.mpr hfree
  have hcrew (a : Int) : f.crew a = 0 :=
    List.countP_eq_zero.mpr fun p hp => by simp [hnone p hp]
  refine ⟨hsessions, hareas, fun p hp a ha => ?_, fun p _ => ?_, fun p _ q _ _ => ?_⟩
  · rw [hnone p hp] at ha
    cases ha
  · rw [hcrew]
    exact Nat.zero_le _
  · rw [hcrew]
    exact Nat.zero_le _

theorem of_sameCrews (h : f.Filled) (hg : SameCrews f g) : g.Filled := by
  refine ⟨?_, ?_, fun p hp a ha => ?_, fun p hp => ?_, fun p hp q hq hlt => ?_⟩
  · have hnodup := nodup_bindings h.sessions
    rw [← hg.bindings, bindings, List.map_map] at hnodup
    exact hnodup
  · rw [Areas.Ascending, ids_eq, hg.targets, ← ids_eq]
    exact h.areas
  · rw [ids_eq, hg.targets, ← ids_eq]
    exact h.registered p (hg.bindings ▸ hp) a ha
  · rw [hg.crew]
    exact h.within p (hg.targets ▸ hp)
  · rw [hg.targets] at hp hq
    rw [hg.crew] at hlt ⊢
    rw [hg.crew]
    exact h.even p hp q hq hlt

theorem touch (h : f.Filled) (worker : String) (host : Option String) (now : Instant) :
    (f.touch worker host now).Filled := by
  refine ⟨h.sessions.touch worker host now, h.areas, fun p hp a ha => ?_, fun p hp => ?_,
    fun p hp q hq hlt => ?_⟩
  · rw [bindings_touch, List.mem_append] at hp
    rcases hp with hp | hp
    · exact h.registered p hp a ha
    · split at hp
      · cases hp
      · obtain rfl := List.mem_singleton.mp hp
        cases ha
  · rw [crew_touch]
    exact h.within p hp
  · simp only [crew_touch] at hlt ⊢
    exact h.even p hp q hq hlt

theorem registered_areaOf (h : f.Filled) {a : Int} (ha : f.areaOf worker = some a) :
    a ∈ f.areas.ids := by
  have hsession : (f.sessions.find? worker).isSome :=
    Option.isSome_iff_exists.mpr ((Option.bind_eq_some_iff.mp ha).imp fun _ => And.left)
  exact h.registered _ (mem_bindings hsession) a ha

theorem liveCount_le (h : f.Filled) {a : Int} {n : Nat} (ha : (a, n) ∈ f.targets)
    (now : Instant) : f.liveCount a now ≤ n :=
  Nat.le_trans (f.liveCount_le_crew a now) (h.within (a, n) ha)

/-- One more worker in an area that has the fewest of those that want more leaves the areas evenly
filled. -/
theorem bindArea (h : f.Filled) (hworker : (worker, none) ∈ f.bindings) {a : Int} {n : Nat}
    (ha : (a, n) ∈ f.targets) (hwants : f.crew a < n)
    (hleast : ∀ p ∈ f.targets, f.crew p.1 < p.2 → f.crew a ≤ f.crew p.1) :
    (f.modifySession worker (·.bindArea a)).Filled := by
  have hcrew := crew_bindArea h.sessions hworker a
  have htarget : ∀ p ∈ f.targets, p.1 = a → p.2 = n := fun p hp he => by
    have hkeys : (f.targets.map Prod.fst).Nodup := by
      rw [← ids_eq]
      exact h.areas.imp Int.ne_of_lt
    exact congrArg Prod.snd (Keyed.eq_of_key hkeys hp ha he)
  refine ⟨h.sessions.modify (f := (·.bindArea a)) (fun _ => rfl) worker, h.areas,
    fun p hp b hb => ?_, fun p hp => ?_, fun p hp q hq hlt => ?_⟩
  · rw [bindings_bindArea] at hp
    obtain ⟨q, hq, rfl⟩ := List.mem_map.mp hp
    split at hb
    · cases hb
      exact f.ids_eq ▸ List.mem_map_of_mem (f := Prod.fst) ha
    · exact h.registered q hq b hb
  · have hold := h.within p hp
    rw [hcrew]
    split
    next he =>
      rw [he, htarget p hp he]
      exact hwants
    next => exact hold
  · rw [hcrew] at hlt ⊢
    rw [hcrew]
    have hold := h.even p hp q hq (by omega)
    -- The other area has as many as the one that gets the worker, or it does not want more.
    have hnew := hleast q hq (by omega)
    split
    next he => rw [he]; omega
    next => omega

end Filled

/-! ### Visits -/

/-- What a worker that asks for an area gets, and what that makes of the fleet: it keeps its area,
it is turned away, or it is bound to the neediest one. -/
inductive Visit (f : Fleet σ) (worker : String) (now : Instant) :
    Except FleetError Int → Fleet σ → Prop
  | keeps {a : Int} {g : Fleet σ} (ha : f.areaOf worker = some a) (hg : SameCrews f g) :
      Visit f worker now (.ok a) g
  | leaves (hfree : f.areaOf worker = none)
      (hfull : ∀ a n, (a, n) ∈ f.targets → n ≤ f.liveCount a now) :
      Visit f worker now (.error .noAreaNeedsWorkers) f
  | joins {a : Int} {g : Fleet σ} (hfree : f.areaOf worker = none) (ha : f.Neediest now a)
      (hg : SameCrews (f.modifySession worker (·.bindArea a)) g) : Visit f worker now (.ok a) g

namespace Visit

variable {answer : Except FleetError Int}

theorem targets (h : Visit f worker now answer g) : g.targets = f.targets := by
  cases h with
  | keeps ha hg => exact hg.targets
  | leaves => rfl
  | joins hfree ha hg => exact hg.targets

/-- The worker has the area that it was given, and the others have theirs. -/
theorem areaOf (h : Visit f worker now answer g) (hworker : (f.sessions.find? worker).isSome)
    (w : String) : g.areaOf w = if w = worker then answer.toOption else f.areaOf w := by
  cases h with
  | keeps ha hg =>
    rw [hg.areaOf]
    split
    next hw => rw [hw, ha]; rfl
    next => rfl
  | leaves hfree hfull =>
    split
    next hw => rw [hw, hfree]; rfl
    next => rfl
  | joins hfree ha hg => rw [hg.areaOf, areaOf_bindArea hworker]; rfl

theorem error_iff (h : Visit f worker now answer g) (hf : f.Filled) :
    answer = .error .noAreaNeedsWorkers ↔
      f.areaOf worker = none ∧ ∀ a n, (a, n) ∈ f.targets → f.liveCount a now = n := by
  cases h with
  | keeps ha hg => simp [ha]
  | leaves hfree hfull =>
    exact iff_of_true rfl
      ⟨hfree, fun a n ha => Nat.le_antisymm (hf.liveCount_le ha now) (hfull a n ha)⟩
  | joins hfree ha hg =>
    obtain ⟨n, hn, hlt⟩ := ha.wants
    exact iff_of_false nofun fun hfull => Nat.ne_of_lt hlt (hfull.2 _ n hn)

theorem eq_of_error (h : Visit f worker now answer g) {e : FleetError} (he : answer = .error e) :
    e = .noAreaNeedsWorkers := by
  cases h with
  | keeps | joins => cases he
  | leaves => exact (Except.error.inj he).symm

theorem eq_ok_of_areaOf (h : Visit f worker now answer g) {a : Int}
    (ha : f.areaOf worker = some a) : answer = .ok a := by
  cases h with
  | keeps hb hg => rw [Option.some.inj (hb.symm.trans ha)]
  | leaves hfree hfull => rw [hfree] at ha; cases ha
  | joins hfree hb hg => rw [hfree] at ha; cases ha

theorem keeps_areaOf (h : Visit f worker now answer g)
    (hworker : (f.sessions.find? worker).isSome) {w : String} {a : Int}
    (ha : f.areaOf w = some a) : g.areaOf w = some a := by
  rw [h.areaOf hworker]
  split
  next hw =>
    subst hw
    rw [h.eq_ok_of_areaOf ha]
    rfl
  next => exact ha

theorem neediest (h : Visit f worker now answer g) (hfree : f.areaOf worker = none) {a : Int}
    (ha : answer = .ok a) : f.Neediest now a := by
  cases h with
  | keeps hb hg => rw [hfree] at hb; cases hb
  | leaves => cases ha
  | joins hfree hb hg => exact Except.ok.inj ha ▸ hb

theorem filled (h : Visit f worker now answer g) (hf : f.Filled)
    (hworker : (f.sessions.find? worker).isSome) (hlive : f.AllLive now) : g.Filled := by
  cases h with
  | keeps ha hg => exact hf.of_sameCrews hg
  | leaves => exact hf
  | joins hfree ha hg =>
    obtain ⟨⟨n, hn, hlt⟩, hleast⟩ := ha
    simp only [hlive.liveCount] at hlt hleast
    have hmem := mem_bindings hworker
    rw [hfree] at hmem
    exact (hf.bindArea hmem hn hlt fun p hp hp' => (hleast p.1 p.2 hp hp').1).of_sameCrews hg

end Visit

/-- The areas with the numbers of their live workers. -/
def crowds (f : Fleet σ) (now : Instant) : List (Area × Nat) :=
  f.areas.list.map fun a => (a, f.liveCount a.id now)

theorem mem_crowds {p : Area × Nat} (hp : p ∈ f.crowds now) :
    (p.1.id, p.1.target) ∈ f.targets ∧ p.2 = f.liveCount p.1.id now := by
  obtain ⟨a, ha, rfl⟩ := List.mem_map.mp hp
  exact ⟨List.mem_map_of_mem (f := fun a : Area => (a.id, a.target)) ha, rfl⟩

theorem exists_mem_crowds {a : Int} {n : Nat} (h : (a, n) ∈ f.targets) (now : Instant) :
    ∃ p ∈ f.crowds now, p.1.id = a ∧ p.1.target = n ∧ p.2 = f.liveCount a now := by
  obtain ⟨b, hb, he⟩ := List.mem_map.mp h
  cases he
  exact ⟨_, List.mem_map_of_mem hb, rfl, rfl, rfl⟩

theorem neediest_of_crowds (h : f.areas.Ascending) {p : Area × Nat}
    (hp : Areas.neediest (f.crowds now) = some p) : f.Neediest now p.1.id := by
  have hids : (f.crowds now).Pairwise (·.1.id < ·.1.id) :=
    List.pairwise_map.mpr (List.pairwise_map.mp h)
  obtain ⟨hwants, hleast⟩ := Areas.neediest_least hids hp
  obtain ⟨htarget, hlive⟩ := mem_crowds (Areas.mem_of_neediest hp)
  refine ⟨⟨p.1.target, htarget, hlive ▸ hwants⟩, fun other target hother hlt => ?_⟩
  obtain ⟨q, hq, rfl, rfl, hcount⟩ := exists_mem_crowds hother now
  rw [← hcount] at hlt ⊢
  rw [← hlive]
  exact hleast q hq hlt

theorem full_of_crowds (h : Areas.neediest (f.crowds now) = none) {a : Int} {n : Nat}
    (ha : (a, n) ∈ f.targets) : n ≤ f.liveCount a now := by
  obtain ⟨p, hp, -, rfl, hcount⟩ := exists_mem_crowds ha now
  rw [← hcount]
  exact Areas.neediest_eq_none_iff.mp h p hp

variable [Store σ]

theorem Filled.visit_initWorker (h : f.Filled) :
    Visit (f.touch worker host now) worker now (f.initWorker worker host now).1
      (f.initWorker worker host now).2 := by
  have ht := h.touch worker host now
  unfold initWorker Areas.allocate
  dsimp only
  generalize f.touch worker host now = t at ht ⊢
  cases ha : t.areaOf worker with
  | some a =>
    obtain ⟨b, hb⟩ := Option.isSome_iff_exists.mp
      (Areas.isSome_find?_iff.mpr (ht.registered_areaOf ha))
    have hbound : ((t.sessions.find? worker).bind (·.area)).bind t.areas.find? = some b := by
      rw [areaOf] at ha
      rw [ha, Option.bind_some, hb]
    obtain rfl := Areas.id_of_find? hb
    simp only [hbound]
    exact .keeps ha (notes_persistDevice t worker now).sameCrews
  | none =>
    have hbound : ((t.sessions.find? worker).bind (·.area)).bind t.areas.find? = none := by
      rw [areaOf] at ha
      rw [ha, Option.bind_none]
    have hcrowds : (t.areas.list.map fun a =>
        (a, (t.sessions.liveIn a.id now t.settings.unseen).length)) = t.crowds now := rfl
    simp only [hbound, hcrowds]
    cases hn : Areas.neediest (t.crowds now) with
    | none => exact .leaves ha fun a n => full_of_crowds hn
    | some p =>
      have hmod : (t.modifySession worker (·.bindArea p.1.id)).sessions.Distinct :=
        ht.sessions.modify (f := (·.bindArea p.1.id)) (fun _ => rfl) worker
      refine .joins ha (neediest_of_crowds ht.areas hn) ?_
      exact (sameCrews_recalculate hmod ht.areas p.1.id now).trans
        (notes_persistDevice _ worker now).sameCrews

theorem Filled.after (h : f.Filled) {e : Event σ} (he : f.AsksWhileLive e) :
    (f.after e).Filled ∧ (f.after e).targets = f.targets ∧
      ∀ w a, f.areaOf w = some a → (f.after e).areaOf w = some a := by
  match e, he with
  | .perform (.initWorker worker host) _ now, hlive =>
    have hv : Visit (f.touch worker host now) worker now (f.initWorker worker host now).1
      (f.initWorker worker host now).2 := h.visit_initWorker
    have hworker := f.sessions.isSome_find?_touch worker host now
    refine ⟨hv.filled (h.touch worker host now) hworker hlive, hv.targets, fun w a ha => ?_⟩
    rw [← areaOf_touch f worker host now] at ha
    exact hv.keeps_areaOf hworker ha

theorem Filled.run (h : f.Filled) {visits : List (Event σ)} (hv : Along AsksWhileLive f visits) :
    (f.run visits).Filled ∧ (f.run visits).targets = f.targets ∧
      ∀ w a, f.areaOf w = some a → (f.run visits).areaOf w = some a := by
  refine run_keeps (I := fun g => g.Filled ∧ g.targets = f.targets ∧
    ∀ w a, f.areaOf w = some a → g.areaOf w = some a) (fun g e hg he => ?_)
    ⟨h, rfl, fun _ _ => id⟩ hv
  obtain ⟨hfilled, htargets, hareas⟩ := hg.1.after he
  exact ⟨hfilled, htargets.trans hg.2.1, fun w a ha => hareas w a (hg.2.2 w a ha)⟩

/-- While all workers are live and ask for areas alone, no area gets more workers than it wants, and
one that wants more has at most one fewer than any other.  Who has an area keeps it.  Who has none
gets the neediest one, and is turned away exactly if each area has as many workers as it wants. -/
theorem run_initWorker_even (f : Fleet σ) (hareas : f.areas.Ascending)
    (hsessions : f.sessions.Distinct) (hfree : ∀ x ∈ f.sessions.list, x.area = none)
    {visits : List (Event σ)} (h : Along AsksWhileLive f visits) :
    let g := f.run visits
    g.targets = f.targets ∧
    (∀ a n now, (a, n) ∈ f.targets → g.liveCount a now ≤ n) ∧
    (∀ now, g.AllLive now → ∀ a m b n, (a, m) ∈ f.targets → (b, n) ∈ f.targets →
      g.liveCount b now < n → g.liveCount a now ≤ g.liveCount b now + 1) ∧
    (∀ more, Along AsksWhileLive g more → ∀ worker a, g.areaOf worker = some a →
      (g.run more).areaOf worker = some a) ∧
    ∀ worker host now, (g.touch worker host now).AllLive now →
      let seen := g.touch worker host now
      let answer := (g.initWorker worker host now).1
      (answer = .error .noAreaNeedsWorkers ↔ g.areaOf worker = none ∧
        ∀ a n, (a, n) ∈ f.targets → seen.liveCount a now = n) ∧
      (∀ e, answer = .error e → e = .noAreaNeedsWorkers) ∧
      (∀ a, g.areaOf worker = some a → answer = .ok a) ∧
      (g.areaOf worker = none → ∀ a, answer = .ok a → seen.Neediest now a) ∧
      ∀ w, (g.initWorker worker host now).2.areaOf w =
        if w = worker then answer.toOption else g.areaOf w := by
  intro g
  obtain ⟨hg, htargets, -⟩ := (Filled.of_free hsessions hareas hfree).run h
  refine ⟨htargets, fun a n now ha => ?_, fun now hlive a m b n ha hb hlt => ?_,
    fun more hmore => (hg.run hmore).2.2, fun worker host now hlive => ?_⟩
  · exact hg.liveCount_le (htargets ▸ ha) now
  · rw [hlive.liveCount] at hlt ⊢
    rw [hlive.liveCount]
    exact hg.even (a, m) (htargets ▸ ha) (b, n) (htargets ▸ hb) hlt
  · intro seen answer
    have hv : Visit seen worker now answer (g.initWorker worker host now).2 := hg.visit_initWorker
    have hseen : seen.targets = f.targets := htargets
    have harea (w : String) : seen.areaOf w = g.areaOf w := g.areaOf_touch worker host now w
    simp only [← harea, ← hseen]
    exact ⟨hv.error_iff (hg.touch worker host now), fun _ => hv.eq_of_error,
      fun _ => hv.eq_ok_of_areaOf, fun hfree _ => hv.neediest hfree,
      hv.areaOf (g.sessions.isSome_find?_touch worker host now)⟩

/-- Three areas that want two workers, none and three. -/
def threeAreas : Fleet Tables :=
  { Fleet.new smallSettings Tables.empty with
    areas := ⟨[(1, 2), (2, 0), (3, 3)].map fun (id, target) =>
      { (default : Area) with id, target }⟩ }

def visitsInTurn : List (Event Tables) :=
  [("ada", 1), ("bob", 2), ("ada", 3), ("cyd", 4), ("dan", 5)].map fun (worker, now) =>
    .perform (.initWorker worker none) .none now

/-- Of four workers one came twice.  A fifth one finds a place in area 3, and the first one keeps
its own. -/
theorem run_initWorker_even_threeAreas :
    threeAreas.areas.Ascending ∧ threeAreas.sessions.Distinct ∧
    (∀ x ∈ threeAreas.sessions.list, x.area = none) ∧
    Along AsksWhileLive threeAreas visitsInTurn ∧
    let g := threeAreas.run visitsInTurn
    g.targets = [(1, 2), (2, 0), (3, 3)] ∧
    ["ada", "bob", "cyd", "dan"].map g.areaOf = [some 1, some 3, some 1, some 3] ∧
    (g.initWorker "eve" none 6).1 = .ok 3 ∧ (g.touch "eve" none 6).Neediest 6 3 ∧
    (g.initWorker "ada" none 6).1 = .ok 1 := by
  have hareas : threeAreas.areas.Ascending := by
    unfold Areas.Ascending
    decide
  have hvisits : Along AsksWhileLive threeAreas visitsInTurn := by decide +kernel
  have hlive : ((threeAreas.run visitsInTurn).touch "eve" none 6).AllLive 6 ∧
      ((threeAreas.run visitsInTurn).touch "ada" none 6).AllLive 6 := by
    unfold AllLive
    decide +kernel
  obtain ⟨htargets, -, -, -, hnext⟩ :=
    threeAreas.run_initWorker_even hareas List.nodup_nil nofun hvisits
  have heve : ((threeAreas.run visitsInTurn).initWorker "eve" none 6).1 = .ok 3 := by
    decide +kernel
  refine ⟨hareas, List.nodup_nil, nofun, hvisits, htargets, by decide +kernel, heve, ?_, ?_⟩
  · exact (hnext "eve" none 6 hlive.1).2.2.2.1 (by decide +kernel) 3 heve
  · exact (hnext "ada" none 6 hlive.2).2.2.1 1 (by decide +kernel)

end Fleet

end ScanFleet
