import ScanFleet.Proofs.Area.Reconciliation
import ScanFleet.Proofs.Fleet.Run

/-! What a reload of the areas makes of a fleet.  The areas are those of the table, each as its row
says, and what was running in an area that is still there goes on.  The workers of the areas that
are gone are unbound; the routes of the areas that are new or changed are cut anew; and all other
sessions stay as they are. -/

namespace ScanFleet

namespace Fleet

variable {σ : Type} {f g : Fleet σ} {now : Instant}

/-! ### Areas and sessions in their orders -/

theorem areaIds_recalculate (f : Fleet σ) (area : Int) (now : Instant) :
    (f.recalculate area now).2.areas.ids = f.areas.ids := by
  unfold recalculate
  split
  · rfl
  · exact Areas.ids_replace _ _

/-- The areas are listed in the order of their ids, and the sessions in that of their creation. -/
structure Ordered (f : Fleet σ) : Prop where
  areas : f.areas.Ascending
  sessions : f.sessions.Ordered

namespace Ordered

theorem congr (h : f.Ordered) (hids : g.areas.ids = f.areas.ids) (hsessions : g.sessions.Ordered) :
    g.Ordered :=
  ⟨by rw [Areas.Ascending, hids]; exact h.areas, hsessions⟩

theorem sameWork (h : f.Ordered) (hw : SameWork f g) : g.Ordered :=
  h.congr (by rw [hw.areas]) (by rw [hw.sessions]; exact h.sessions)

theorem modifySession (h : f.Ordered) {k : Session → Session} (hk : ∀ x, (k x).seq = x.seq)
    (worker : String) : (f.modifySession worker k).Ordered :=
  ⟨h.areas, h.sessions.modify hk worker⟩

theorem recalculate (h : f.Ordered) (hd : f.sessions.Distinct) (area : Int) (now : Instant) :
    (f.recalculate area now).2.Ordered := by
  obtain ⟨k, hk, hsame⟩ := map_recalculate hd area now
  obtain ⟨list, hlist⟩ := exists_list_recalculate f area now
  exact h.congr (areaIds_recalculate f area now)
    (h.sessions.map (fun x => (hsame x).1.seq) hk (by rw [hlist]))

theorem reconcile (h : f.Ordered) (hd : f.sessions.Distinct) (rows : List AreaRecord) :
    (f.reconcile rows).Ordered := by
  obtain ⟨list, hlist⟩ := exists_list_reconcile f rows
  refine ⟨?_, h.sessions.map (seq_unbound _) (list_reconcile hd rows) (by rw [hlist])⟩
  rw [(reconcile_keeps f rows).2.2]
  exact h.areas.apply _

theorem registerAll (h : f.Ordered) (rows : List AreaRecord) : (f.registerAll rows).2.Ordered := by
  induction rows generalizing f with
  | nil => exact h
  | cons r rows ih =>
    unfold Fleet.registerAll
    split
    · exact h
    next d _ =>
      have hregister : Ordered { f with areas := f.areas.register d } :=
        ⟨h.areas.insert _, h.sessions⟩
      exact ih hregister

variable [Store σ]

theorem move (h : f.Ordered) (hd : f.sessions.Distinct) (hm : Move now f g) : g.Ordered := by
  cases hm with
  | quiet hq =>
    cases hq with
    | note hn => exact h.sameWork hn.toSameWork
    | touch worker host => exact ⟨h.areas, h.sessions.touch worker host now⟩
    | settle harea hnone => exact h.modifySession (by intro; rfl) _
    | recut area => exact h.recalculate hd area now
    | advance worker => exact h.modifySession (by intro; rfl) _
    | renew ha hb => exact h.congr (Areas.ids_replace _ _) h.sessions
    | @grant worker accept c hworker hc =>
      have hbound := h.modifySession (k := (·.bindAccount c.username)) (by intro; rfl) worker
      refine h.congr ?_ ?_
      · rw [(sameWork_bindAccount _ _ _ _).areas]
        exact congrArg Areas.ids (sameWork_allocate f accept now).areas
      · rw [grant_sessions]
        exact hbound.sessions
  | count worker kinds => exact h.modifySession (by intro; rfl) _
  | trip worker named =>
    have htrip := h.modifySession (k := tripped) (by intro; rfl) worker
    exact htrip.sameWork (sameWork_tripAccount f worker named now)

theorem moves (h : f.Ordered) (hd : f.sessions.Distinct) (hm : Moves now f g) : g.Ordered := by
  have hboth := hm.keep (P := fun g => g.sessions.Distinct ∧ g.Ordered)
    (fun hf hm => ⟨hm.distinct hf.1, hf.2.move hf.1 hm⟩) ⟨hd, h⟩
  exact hboth.2

theorem after (h : f.Ordered) (hf : f.Sound) (e : Event σ) : (f.after e).Ordered := by
  have hout := f.outcome e
  generalize f.after e = g at hout ⊢
  cases hout with
  | moves now hm => exact h.moves hf.distinct hm
  | @logout worker s services now hs =>
    have hremove : Ordered { f with sessions := f.sessions.remove s.id } :=
      ⟨h.areas, h.sessions.remove s.id⟩
    exact (hremove.sameWork (sameWork_forget f s now)).moves (hf.forget s now).distinct
      (quietMoves_logout hs now).moves
  | load hwork hpool => exact h.sameWork hwork
  | @startup services now =>
    have haccounts : (f.bootstrapAccounts now).Ordered :=
      h.sameWork (sameWork_bootstrapAccounts f now)
    rcases bootstrap_cases f now with ⟨-, hb⟩ | ⟨rows, -, hb, -⟩
    · rw [hb]
      exact haccounts
    · rw [hb]
      exact haccounts.registerAll rows
  | @reload rows services now hrows =>
    rw [hrows]
    exact (h.reconcile hf.distinct rows).moves (distinct_reconcile hf.distinct rows)
      (quietMoves_recalculateAll _ _ now).moves

theorem run (h : f.Ordered) (hf : f.Sound) (events : List (Event σ)) : (f.run events).Ordered := by
  induction events generalizing f with
  | nil => exact h
  | cons e events ih => exact ih (h.after hf e) (hf.after e)

end Ordered

theorem ordered_new (settings : Settings) (store : σ) : (Fleet.new settings store).Ordered :=
  ⟨Areas.ascending_empty, Sessions.ordered_empty _⟩

/-! ### Cuts of several areas -/

/-- A session after the routes of some areas were cut. -/
def recutIn (f : Fleet σ) (areas : List Int) (now : Instant) (x : Session) : Session :=
  match x.area with
  | some area =>
    if area ∈ areas ∧ f.liveIds area now ≠ [] then
      x.recut (f.liveIds area now) ((f.route? area).getD []).length
    else x
  | none => x

theorem sameButWalk_recutIn (f : Fleet σ) (areas : List Int) (now : Instant) (x : Session) :
    x.SameButWalk (f.recutIn areas now x) := by
  unfold recutIn
  split
  · split
    · exact x.sameButWalk_recut _ _
    · exact ⟨rfl, rfl, rfl, rfl, rfl, rfl⟩
  · exact ⟨rfl, rfl, rfl, rfl, rfl, rfl⟩

theorem recutIn_of_mem {areas : List Int} {area : Int} {x : Session} (hx : x.area = some area)
    (hmem : area ∈ areas) (hlive : f.liveIds area now ≠ []) {r : Route}
    (hr : f.route? area = some r) :
    f.recutIn areas now x = x.recut (f.liveIds area now) r.length := by
  simp only [recutIn, hx, if_pos (And.intro hmem hlive), hr, Option.getD_some]

theorem recutIn_of_not_mem {areas : List Int} {x : Session}
    (h : ∀ area, x.area = some area → area ∉ areas) : f.recutIn areas now x = x := by
  unfold recutIn
  split
  next area hx => rw [if_neg fun hmem => h area hx hmem.1]
  next => rfl

theorem recutIn_cons_of_live {areas : List Int} {area : Int} {r : Route} (harea : area ∉ areas)
    (hlive : f.liveIds area now ≠ []) (hr : f.route? area = some r) (x : Session) :
    f.recutIn (area :: areas) now x = f.recutIn areas now
      (if x.area = some area then x.recut (f.liveIds area now) r.length else x) := by
  split
  next hx =>
    rw [recutIn_of_mem hx List.mem_cons_self hlive hr]
    refine (recutIn_of_not_mem fun other ho => ?_).symm
    rw [(x.sameButWalk_recut _ _).area, hx] at ho
    cases ho
    exact harea
  next hx =>
    unfold recutIn
    split
    next other hother =>
      have hne : other ≠ area := fun he => hx (by rw [hother, he])
      simp [hne]
    next => rfl

theorem recutIn_cons_of_not_live (areas : List Int) {area : Int} (hlive : f.liveIds area now = [])
    (x : Session) : f.recutIn (area :: areas) now x = f.recutIn areas now x := by
  unfold recutIn
  split
  next other hx =>
    by_cases ho : other = area
    · subst ho
      simp [hlive]
    · simp [ho]
  next => rfl

/-- The cuts of different areas do not meet. -/
theorem list_recalculateAll (hd : f.sessions.Distinct) {areas : List Int} (hnodup : areas.Nodup)
    (hreg : ∀ area ∈ areas, (f.route? area).isSome) :
    (f.recalculateAll areas now).sessions.list = f.sessions.list.map (f.recutIn areas now) := by
  induction areas generalizing f with
  | nil =>
    have hid : f.recutIn [] now = id := funext fun x => recutIn_of_not_mem (by simp)
    rw [hid, List.map_id]
    rfl
  | cons area areas ih =>
    obtain ⟨harea, hnodup⟩ := List.nodup_cons.mp hnodup
    obtain ⟨r, hr⟩ := Option.isSome_iff_exists.mp (hreg area List.mem_cons_self)
    have hroute := f.route?_recalculate area now
    -- A cut changes neither who is live nor a route, so the others do what they would have done.
    have hsame : (f.recalculate area now).2.recutIn areas now = f.recutIn areas now := by
      funext x
      simp only [recutIn, liveIds_recalculate hd, hroute]
    have hrest := ih (distinct_recalculate hd area now) hnodup fun other hother => by
      rw [hroute]
      exact hreg other (List.mem_cons_of_mem area hother)
    have hstep : f.recalculateAll (area :: areas) now =
        (f.recalculate area now).2.recalculateAll areas now := rfl
    rw [hstep, hrest, hsame]
    by_cases hlive : f.liveIds area now = []
    · rw [sessions_recalculate_eq_self hd (.inr hlive)]
      exact List.map_congr_left fun x _ => (recutIn_cons_of_not_live areas hlive x).symm
    · rw [list_recalculate hd hr hlive, List.map_map]
      exact List.map_congr_left fun x _ => (recutIn_cons_of_live harea hlive hr x).symm

section

variable {areas : List Int} {area : Int} {r : Route} (hd : f.sessions.Distinct)
  (hnodup : areas.Nodup) (hreg : ∀ area ∈ areas, (f.route? area).isSome) (harea : area ∈ areas)
  (hr : f.route? area = some r)
include hd hnodup hreg

theorem liveIn_recalculateAll :
    (f.recalculateAll areas now).sessions.liveIn area now f.settings.unseen =
      (f.sessions.liveIn area now f.settings.unseen).map (f.recutIn areas now) :=
  Sessions.liveIn_map (list_recalculateAll hd hnodup hreg)
    (fun x => (f.sameButWalk_recutIn areas now x).area)
    fun x => (f.sameButWalk_recutIn areas now x).lastSeen

include harea hr

/-- The live workers of an area that was cut have the parts of its route in order. -/
theorem parts_recalculateAll (hlive : f.liveIds area now ≠ []) :
    ((f.recalculateAll areas now).sessions.liveIn area now f.settings.unseen).map
        (fun x => x.walk.map (·.part)) =
      if r.length = 0 then
        List.replicate
          ((f.recalculateAll areas now).sessions.liveIn area now f.settings.unseen).length none
      else
        (partition r.length
          ((f.recalculateAll areas now).sessions.liveIn area now f.settings.unseen).length).map
            some := by
  rw [liveIn_recalculateAll hd hnodup hreg, List.map_map, List.length_map,
    ← Sessions.parts_recut hd]
  refine List.map_congr_left fun x hx => ?_
  obtain ⟨-, hx, -⟩ := Sessions.mem_liveIn.mp hx
  rw [Function.comp_apply, recutIn_of_mem hx harea hlive hr]
  rfl

theorem walk_recalculateAll_of_stale (hlive : f.liveIds area now ≠ []) {x : Session}
    (hx : x ∈ (f.recalculateAll areas now).sessions.inArea area)
    (hstale : ¬ x.isLive now f.settings.unseen) : x.walk = none := by
  obtain ⟨hx, ha⟩ := Sessions.mem_inArea.mp hx
  rw [list_recalculateAll hd hnodup hreg] at hx
  obtain ⟨y, hy, rfl⟩ := List.mem_map.mp hx
  have hsame := f.sameButWalk_recutIn areas now y
  rw [hsame.area] at ha
  rw [Session.isLive, hsame.lastSeen] at hstale
  rw [recutIn_of_mem ha harea hlive hr]
  have hmem : ¬ (y.id ∈ f.liveIds area now ∧ 0 < r.length) := fun h =>
    hstale ((Sessions.mem_liveIds hd hy).mp h.1).2
  rw [Session.recut, if_neg hmem]
  rfl

end

theorem find?_recalculate (f : Fleet σ) (area : Int) (now : Instant) :
    ∃ cut : Area → Option Instant, ∀ id, (f.recalculate area now).2.areas.find? id =
      (f.areas.find? id).map fun a => { a with partitioned := cut a } := by
  unfold recalculate
  split
  next => exact ⟨(·.partitioned), fun id => by simp⟩
  next a ha =>
    have hcut : ∃ time, (a.recalculate (f.workersOf area) now f.settings.unseen f.sessions).2.1 =
        { a with partitioned := time } := by
      unfold Area.recalculate
      dsimp only
      split
      · exact ⟨a.partitioned, rfl⟩
      · exact ⟨some now, rfl⟩
    obtain ⟨time, htime⟩ := hcut
    have hid := Areas.id_of_find? ha
    refine ⟨fun b => if b.id = area then time else b.partitioned, fun id => ?_⟩
    dsimp only
    rw [htime, Areas.find?_replace]
    dsimp only
    rw [hid]
    cases hb : f.areas.find? id with
    | none => simp
    | some b =>
      have hbid := Areas.id_of_find? hb
      by_cases he : id = area
      · subst he
        rw [ha] at hb
        cases hb
        simp [hid]
      · subst hbid
        simp [he]

/-- Cuts note in an area when they were made and change nothing else of it. -/
theorem find?_recalculateAll (f : Fleet σ) (areas : List Int) (now : Instant) :
    ∃ cut : Area → Option Instant, ∀ id, (f.recalculateAll areas now).areas.find? id =
      (f.areas.find? id).map fun a => { a with partitioned := cut a } := by
  induction areas generalizing f with
  | nil => exact ⟨(·.partitioned), fun id => by simp [recalculateAll]⟩
  | cons area areas ih =>
    obtain ⟨first, hfirst⟩ := find?_recalculate f area now
    obtain ⟨rest, hrest⟩ := ih (f.recalculate area now).2
    refine ⟨fun a => rest { a with partitioned := first a }, fun id => ?_⟩
    have hstep : f.recalculateAll (area :: areas) now =
        (f.recalculate area now).2.recalculateAll areas now := rfl
    rw [hstep, hrest, hfirst, Option.map_map]
    rfl

/-! ### Reloads -/

/-- What a reload makes of the areas `as` when the table holds `rows`. -/
structure AreasReloaded (as : Areas) (rows : List AreaRecord) (changes : AreaChanges)
    (as' : Areas) : Prop where
  ascending : as'.Ascending
  ids : ∀ id, id ∈ as'.ids ↔ id ∈ rows.map (·.id)
  reads : ∀ r ∈ rows, ∃ a, as'.find? r.id = some a ∧ a.Reads (.lenient r)
  continues : ∀ r ∈ rows, ∀ a, as.find? r.id = some a →
    ∃ b, as'.find? r.id = some b ∧ a.Continues b (Definition.lenient r).questRoute
  added : ∀ id, id ∈ changes.added ↔ id ∈ as'.ids ∧ id ∉ as.ids
  removed : ∀ id, id ∈ changes.removed ↔ id ∈ as.ids ∧ id ∉ as'.ids
  /-- An area is changed when its route, its number of workers or its fence differs. -/
  changed : ∀ id, id ∈ changes.changed ↔ ∃ r ∈ rows, r.id = id ∧ ∃ a, as.find? id = some a ∧
    (a.route != (Definition.lenient r).route || a.target != (Definition.lenient r).target ||
      a.fence != (Definition.lenient r).fence) = true
  sorted : changes.added.Pairwise (· < ·) ∧ changes.changed.Pairwise (· < ·) ∧
    changes.removed.Pairwise (· < ·)
  disjoint : changes.added.Disjoint changes.changed ∧ changes.added.Disjoint changes.removed ∧
    changes.changed.Disjoint changes.removed

/-- What a reload of areas at the time `now` makes of the fleet `f` when its table holds `rows`. -/
structure Reloaded (f : Fleet σ) (rows : List AreaRecord) (now : Instant) (changes : AreaChanges)
    (g : Fleet σ) : Prop extends AreasReloaded f.areas rows changes g.areas where
  /-- The workers of a removed area have no area any more, nor a part of a route. -/
  evicted : ∀ x ∈ f.sessions.list, ∀ area ∈ changes.removed, x.area = some area →
    g.sessions.find? x.id = some x.unbindArea
  registered : ∀ x ∈ g.sessions.list, ∀ area, x.area = some area → area ∈ g.areas.ids
  created : g.sessions.list.Pairwise (·.seq < ·.seq)
  /-- The live workers of a new or changed area have the parts of its route in the order of their
  sessions, and none if the route is empty. -/
  cut : ∀ id ∈ changes.added ++ changes.changed, ∀ a, g.areas.find? id = some a →
    g.sessions.liveIn id now g.settings.unseen ≠ [] →
    (g.sessions.liveIn id now g.settings.unseen).map (fun x => x.walk.map (·.part)) =
      if a.route.length = 0 then
        List.replicate (g.sessions.liveIn id now g.settings.unseen).length none
      else
        (partition a.route.length (g.sessions.liveIn id now g.settings.unseen).length).map some
  stale : ∀ id ∈ changes.added ++ changes.changed,
    g.sessions.liveIn id now g.settings.unseen ≠ [] →
    ∀ x ∈ g.sessions.inArea id, ¬ x.isLive now g.settings.unseen → x.walk = none
  untouched : ∀ x ∈ f.sessions.list,
    (∀ area, x.area = some area →
      area ∉ changes.added ∧ area ∉ changes.changed ∧ area ∉ changes.removed) →
    g.sessions.find? x.id = some x

section

variable {rows : List AreaRecord}

theorem nodup_ids_lenient (h : (rows.map (·.id)).Nodup) :
    ((rows.map Definition.lenient).map (·.id)).Nodup := by
  rw [List.map_map]
  exact h

/-- The ids that a reload lists. -/
def changesOf (as : Areas) (rows : List AreaRecord) : AreaChanges where
  added := (as.apply (rows.map Definition.lenient)).1.added
  changed := (as.apply (rows.map Definition.lenient)).1.changed
  removed := (as.apply (rows.map Definition.lenient)).1.removed.map (·.id)

section

variable (h : (rows.map (·.id)).Nodup) (as : Areas)
include h

theorem mem_added_changesOf {id : Int} :
    id ∈ (changesOf as rows).added ↔ id ∈ rows.map (·.id) ∧ id ∉ as.ids := by
  have hold : as.find? id = none ↔ id ∉ as.ids := by
    rw [← Areas.isSome_find?_iff, Option.not_isSome_iff_eq_none]
  rw [changesOf, Areas.mem_added_apply (nodup_ids_lenient h), hold, List.map_map]
  rfl

theorem mem_removed_changesOf {id : Int} :
    id ∈ (changesOf as rows).removed ↔ id ∈ as.ids ∧ id ∉ rows.map (·.id) := by
  rw [changesOf, Areas.mem_removed_apply (nodup_ids_lenient h), Areas.isSome_find?_iff,
    List.map_map]
  rfl

theorem mem_changed_changesOf {id : Int} :
    id ∈ (changesOf as rows).changed ↔ ∃ r ∈ rows, r.id = id ∧ ∃ a, as.find? id = some a ∧
      (a.route != (Definition.lenient r).route || a.target != (Definition.lenient r).target ||
        a.fence != (Definition.lenient r).fence) = true := by
  rw [changesOf, Areas.mem_changed_apply (nodup_ids_lenient h)]
  simp only [List.mem_map, exists_exists_and_eq_and]
  rfl

variable {as} {as' : Areas} {cut : Area → Option Instant}
  (hcut : ∀ id, as'.find? id = ((as.apply (rows.map Definition.lenient)).2.find? id).map
    fun a => { a with partitioned := cut a })
include hcut

theorem ids_of_cut (id : Int) : id ∈ as'.ids ↔ id ∈ rows.map (·.id) := by
  rw [← Areas.isSome_find?_iff, hcut, Areas.find?_apply_eq (nodup_ids_lenient h),
    Option.isSome_map, Option.isSome_map, Keyed.isSome_find?_iff (k := Definition.id), List.map_map]
  rfl

theorem find?_of_cut {r : AreaRecord} (hr : r ∈ rows) :
    as'.find? r.id =
      some { as.renewed (.lenient r) with partitioned := cut (as.renewed (.lenient r)) } := by
  have hd : (rows.map Definition.lenient).find? (·.id = r.id) = some (.lenient r) :=
    (Keyed.find?_eq_some_iff (k := Definition.id) (nodup_ids_lenient h)).mpr
      ⟨List.mem_map_of_mem hr, rfl⟩
  rw [hcut, Areas.find?_apply_eq (nodup_ids_lenient h), hd]
  rfl

/-- What the rows make of areas, whenever their routes are cut. -/
theorem areasReloaded (hasc : as.Ascending) (hasc' : as'.Ascending) :
    AreasReloaded as rows (changesOf as rows) as' := by
  have hids := ids_of_cut h hcut
  -- What is changed was there before and is in the table, so it is neither added nor removed.
  have hkept {id : Int} (hc : id ∈ (changesOf as rows).changed) :
      id ∈ as.ids ∧ id ∈ rows.map (·.id) := by
    obtain ⟨r, hr, rfl, a, ha, -⟩ := (mem_changed_changesOf h as).mp hc
    exact ⟨Areas.isSome_find?_iff.mp (by rw [ha]; rfl), List.mem_map_of_mem hr⟩
  constructor
  case ascending => exact hasc'
  case ids => exact hids
  case reads =>
    intro r hr
    have hreads := as.reads_renewed (.lenient r)
    exact ⟨_, find?_of_cut h hcut hr, hreads.id, hreads.name, hreads.target, hreads.route,
      hreads.questRoute, hreads.fence, hreads.hours⟩
  case continues =>
    intro r hr a ha
    have hcontinues := Areas.continues_renewed (d := .lenient r) ha
    exact ⟨_, find?_of_cut h hcut hr, hcontinues.last, hcontinues.caches, hcontinues.pass⟩
  case added =>
    intro id
    rw [hids]
    exact mem_added_changesOf h as
  case removed =>
    intro id
    rw [hids]
    exact mem_removed_changesOf h as
  case changed => exact fun id => mem_changed_changesOf h as
  case sorted =>
    exact ⟨Areas.pairwise_added (nodup_ids_lenient h) as,
      Areas.pairwise_changed (nodup_ids_lenient h) as, Areas.pairwise_removed hasc _⟩
  case disjoint =>
    refine ⟨fun id ha hc => ?_, fun id ha hr => ?_, fun id hc hr => ?_⟩
    · exact ((mem_added_changesOf h as).mp ha).2 (hkept hc).1
    · exact ((mem_removed_changesOf h as).mp hr).2 ((mem_added_changesOf h as).mp ha).1
    · exact ((mem_removed_changesOf h as).mp hr).2 (hkept hc).2

end

theorem AreasReloaded.nodup_affected {as as' : Areas} {changes : AreaChanges}
    (h : AreasReloaded as rows changes as') : (changes.added ++ changes.changed).Nodup := by
  have hadded : changes.added.Nodup := h.sorted.1.imp Int.ne_of_lt
  have hchanged : changes.changed.Nodup := h.sorted.2.1.imp Int.ne_of_lt
  exact hadded.append hchanged h.disjoint.1

theorem AreasReloaded.mem_affected {as as' : Areas} {changes : AreaChanges}
    (h : AreasReloaded as rows changes as') {id : Int}
    (hid : id ∈ changes.added ++ changes.changed) : id ∈ as'.ids := by
  rcases List.mem_append.mp hid with hid | hid
  · exact ((h.added id).mp hid).1
  · obtain ⟨r, hr, rfl, -⟩ := (h.changed id).mp hid
    exact (h.ids r.id).mpr (List.mem_map_of_mem hr)

variable [Store σ]

/-- The fleet after a reload, when its table holds `rows`. -/
abbrev afterRows (f : Fleet σ) (rows : List AreaRecord) (now : Instant) : Fleet σ :=
  (f.reconcile rows).recalculateAll (f.affected rows) now

section

variable (now) (hf : f.Sound) (ho : f.Ordered) (h : (rows.map (·.id)).Nodup)
include hf ho h

omit h in
theorem ordered_afterRows : (f.afterRows rows now).Ordered :=
  (ho.reconcile hf.distinct rows).moves (distinct_reconcile hf.distinct rows)
    (quietMoves_recalculateAll _ _ now).moves

theorem areasReloaded_afterRows :
    AreasReloaded f.areas rows (changesOf f.areas rows) (f.afterRows rows now).areas := by
  obtain ⟨cut, hcut⟩ := find?_recalculateAll (f.reconcile rows) (f.affected rows) now
  rw [(reconcile_keeps f rows).2.2] at hcut
  exact areasReloaded h hcut ho.areas (ordered_afterRows now hf ho).areas

theorem nodup_affected : (f.affected rows).Nodup :=
  (areasReloaded_afterRows 0 hf ho h).nodup_affected

theorem isSome_route?_affected : ∀ id ∈ f.affected rows, ((f.reconcile rows).route? id).isSome := by
  intro id hid
  have hmoves := (quietMoves_recalculateAll (f.reconcile rows) (f.affected rows) 0).moves
  rw [← hmoves.route?, route?, Areas.route?_isSome_iff, Areas.isSome_find?_iff]
  exact (areasReloaded_afterRows 0 hf ho h).mem_affected hid

/-- The session of a worker is unbound if its area is gone, and then cut anew. -/
theorem find?_afterRows {x y : Session} (hx : x ∈ f.sessions.list) (hid : y.id = x.id)
    (hy : (f.reconcile rows).recutIn (f.affected rows) now
      (unbound (changesOf f.areas rows).removed x) = y) :
    (f.afterRows rows now).sessions.find? x.id = some y := by
  have hd := distinct_reconcile hf.distinct rows
  have hmoves := (quietMoves_recalculateAll (f.reconcile rows) (f.affected rows) now).moves
  rw [← hid]
  refine Sessions.find?_of_mem ((hf.reconcile rows).moves hmoves).distinct ?_
  rw [list_recalculateAll hd (nodup_affected hf ho h) (isSome_route?_affected hf ho h),
    list_reconcile hf.distinct rows, List.map_map]
  exact List.mem_map.mpr ⟨x, hx, hy⟩

theorem reloaded : Reloaded f rows now (changesOf f.areas rows) (f.afterRows rows now) := by
  have hmoves := (quietMoves_recalculateAll (f.reconcile rows) (f.affected rows) now).moves
  have hd := distinct_reconcile hf.distinct rows
  have hsound := (hf.reconcile rows).moves hmoves
  have hnodup := nodup_affected hf ho h
  have hreg := isSome_route?_affected hf ho h
  have hlive {id : Int} (hne : (f.afterRows rows now).sessions.liveIn id now
      (f.reconcile rows).settings.unseen ≠ []) : (f.reconcile rows).liveIds id now ≠ [] := by
    rw [liveIn_recalculateAll hd hnodup hreg, ne_eq, List.map_eq_nil_iff] at hne
    rwa [liveIds, Sessions.liveIds, ne_eq, List.map_eq_nil_iff]
  constructor
  case toAreasReloaded => exact areasReloaded_afterRows now hf ho h
  case evicted =>
    intro x hx area harea ha
    have hunbound : unbound (changesOf f.areas rows).removed x = x.unbindArea :=
      if_pos ⟨area, harea, ha⟩
    refine find?_afterRows now hf ho h hx rfl ?_
    rw [hunbound]
    -- A worker without an area has no part in any cut.
    exact recutIn_of_not_mem fun other hother => by cases hother
  case registered =>
    intro x hx area ha
    have hsome := (hsound.fits x hx).registered area ha
    rwa [route?, Areas.route?_isSome_iff, Areas.isSome_find?_iff] at hsome
  case created => exact (ordered_afterRows now hf ho).sessions.pairwise
  case cut =>
    intro id hid a ha hne
    have hroute : (f.reconcile rows).route? id = some a.route := by
      rw [← hmoves.route?, route?, Areas.route?, ha, Option.map_some]
    rw [hmoves.settings] at hne ⊢
    exact parts_recalculateAll hd hnodup hreg hid hroute (hlive hne)
  case stale =>
    intro id hid hne x hx hstale
    rw [hmoves.settings] at hne hstale
    obtain ⟨r, hr⟩ := Option.isSome_iff_exists.mp (hreg id hid)
    exact walk_recalculateAll_of_stale hd hnodup hreg hid hr (hlive hne) hx hstale
  case untouched =>
    intro x hx hother
    have hbound : unbound (changesOf f.areas rows).removed x = x := by
      refine if_neg ?_
      rintro ⟨area, harea, ha⟩
      exact (hother area ha).2.2 harea
    refine find?_afterRows now hf ho h hx rfl ?_
    rw [hbound]
    refine recutIn_of_not_mem fun area ha hmem => ?_
    rcases List.mem_append.mp hmem with hmem | hmem
    · exact (hother area ha).1 hmem
    · exact (hother area ha).2.1 hmem

end

/-- In every state, a reload of a table without repeated ids succeeds and makes the areas what the
table says. -/
theorem run_reloadAreas (settings : Settings) (store : σ) (events : List (Event σ)) (now : Instant)
    (hrows : Store.loadAreas ((Fleet.new settings store).run events).store = .ok rows)
    (hids : (rows.map (·.id)).Nodup) :
    ∃ changes, (((Fleet.new settings store).run events).reloadAreas now).1 = .ok changes ∧
      Reloaded ((Fleet.new settings store).run events) rows now changes
        (((Fleet.new settings store).run events).reloadAreas now).2 := by
  have hsound := (sound_new settings store).run events
  have hordered := (ordered_new settings store).run (sound_new settings store) events
  generalize (Fleet.new settings store).run events = f at *
  refine ⟨changesOf f.areas rows, ?_, ?_⟩
  · unfold reloadAreas
    rw [hrows]
    rfl
  · rw [reloadAreas_snd, hrows]
    exact reloaded now hsound hordered hids

end

/-- The rows of a table that has another route for area 1, no area 2, and a new area 3. -/
def movedRows : List AreaRecord :=
  [{ (default : AreaRecord) with id := 1, pokemonWorkers := 1, pokemonRoute := some "5 5,6 6" },
    { (default : AreaRecord) with id := 3, pokemonRoute := some "7 7" }]

/-- A store with areas 1 and 2, each with a worker, which is then edited. -/
def movedRun : List (Event Tables) :=
  [.perform .bootstrap .none 0, .perform (.initWorker "w" none) .none 0,
    .perform (.initWorker "v" none) .none 0, .edit { Tables.empty with areas := movedRows }]

theorem run_reloadAreas_moved :
    let store := { Tables.empty with areas := [
      { (default : AreaRecord) with id := 1, pokemonWorkers := 1, pokemonRoute := some "1 1,2 2" },
      { (default : AreaRecord) with id := 2, pokemonWorkers := 1, pokemonRoute := some "3 3" }] }
    let f := (Fleet.new smallSettings store).run movedRun
    (f.reloadAreas 1).1.toOption = some ⟨[3], [1], [2]⟩ ∧
      ∃ changes, (f.reloadAreas 1).1 = .ok changes ∧
        Reloaded f movedRows 1 changes (f.reloadAreas 1).2 :=
  ⟨by decide +kernel, run_reloadAreas smallSettings _ movedRun 1 rfl (by decide)⟩

end Fleet

end ScanFleet
