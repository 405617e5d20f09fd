import ScanFleet.Proofs.Fleet.Reconciliation

/-! Reloads row by row.  What a reload makes of an area is told by the area and its own row, and
what it makes of a session is told by the session and the row of its area.  So tables that differ in
one row lead to fleets that differ in that area alone, whatever is wrong with the row. -/

namespace ScanFleet

namespace Sessions

variable {s s' : Sessions} {area : Int} {now : Instant} {unseen : Span}

/-- A change of sessions that are bound elsewhere, and are so afterwards, leaves the live workers of
an area alone. -/
theorem liveIn_of_elsewhere {k : Session → Session} (hlist : s'.list = s.list.map k)
    (hk : ∀ x, (k x).area = some area ↔ x.area = some area)
    (hsame : ∀ x, x.area = some area → k x = x) :
    s'.liveIn area now unseen = s.liveIn area now unseen := by
  have hin : s'.inArea area = s.inArea area := by
    have hfun : (fun x : Session => decide (x.area = some area)) ∘ k =
        fun x => decide (x.area = some area) := funext fun x => by simp [hk]
    rw [inArea, hlist, List.filter_map, hfun, inArea]
    refine (List.map_congr_left fun x hx => ?_).trans (List.map_id _)
    exact hsame x (by simpa using (List.mem_filter.mp hx).2)
  rw [liveIn, hin, liveIn]

end Sessions

/-- Two summaries agree on every area but one. -/
structure AreaChanges.AgreeAside (area : Int) (c c' : AreaChanges) : Prop where
  added : c.added.filter (· ≠ area) = c'.added.filter (· ≠ area)
  changed : c.changed.filter (· ≠ area) = c'.changed.filter (· ≠ area)
  removed : c.removed.filter (· ≠ area) = c'.removed.filter (· ≠ area)

namespace Fleet

variable {σ : Type} {f : Fleet σ} {now : Instant} {rows : List AreaRecord}

/-! ### Cuts -/

/-- An area after a cut, which notes its time if it gave out parts. -/
def cutArea (f : Fleet σ) (now : Instant) (a : Area) : Area :=
  if f.liveIds a.id now = [] ∨ a.route = [] then a else { a with partitioned := some now }

theorem find?_recalculate_eq (hd : f.sessions.Distinct) (area id : Int) (now : Instant) :
    (f.recalculate area now).2.areas.find? id =
      (f.areas.find? id).map fun a => if id = area then f.cutArea now a else a := by
  unfold recalculate
  cases ha : f.areas.find? area with
  | none =>
    by_cases heq : id = area
    · rw [heq, ha]
      rfl
    · simp [heq]
  | some a =>
    have hid := Areas.id_of_find? ha
    have hcut : (a.recalculate (f.workersOf area) now f.settings.unseen f.sessions).2.1 =
        f.cutArea now a := by
      unfold Area.recalculate cutArea workersOf
      simp only [Sessions.fst_partitionRoute, Sessions.filter_isLive hd, List.length_eq_zero_iff,
        List.isEmpty_iff, hid]
      rfl
    have hcutId : (f.cutArea now a).id = area := by
      unfold cutArea
      split <;> exact hid
    dsimp only
    rw [hcut, Areas.find?_replace, hcutId]
    by_cases heq : id = area
    · rw [if_pos heq, heq, ha]
      simp
    · simp [heq]

theorem cutArea_recalculate (hd : f.sessions.Distinct) (area : Int) (now : Instant) :
    (f.recalculate area now).2.cutArea now = f.cutArea now := by
  funext a
  rw [cutArea, liveIds_recalculate hd, cutArea]

theorem cutArea_cutArea (f : Fleet σ) (now : Instant) (a : Area) :
    f.cutArea now (f.cutArea now a) = f.cutArea now a := by
  by_cases h : f.liveIds a.id now = [] ∨ a.route = [] <;> simp [cutArea, h]

theorem find?_recalculateAll_eq (hd : f.sessions.Distinct) (areas : List Int) (id : Int)
    (now : Instant) :
    (f.recalculateAll areas now).areas.find? id =
      (f.areas.find? id).map fun a => if id ∈ areas then f.cutArea now a else a := by
  induction areas generalizing f with
  | nil => simp [recalculateAll]
  | cons area areas ih =>
    have hstep : f.recalculateAll (area :: areas) now =
        (f.recalculate area now).2.recalculateAll areas now := rfl
    rw [hstep, ih (distinct_recalculate hd area now), find?_recalculate_eq hd,
      cutArea_recalculate hd, Option.map_map]
    congr 1
    funext a
    by_cases heq : id = area <;> by_cases hmem : id ∈ areas <;>
      simp [heq, hmem, cutArea_cutArea]

/-! ### One area and one session -/

/-- Whether a reload cuts the route of the area of a row. -/
def isCut (f : Fleet σ) (r : AreaRecord) : Bool :=
  f.areas.isNew (.lenient r) || f.areas.isChanged (.lenient r)

/-- What a reload makes of the area of a row. -/
def reloadedArea (f : Fleet σ) (now : Instant) (r : AreaRecord) : Area :=
  let a := f.areas.renewed (.lenient r)
  if f.isCut r then f.cutArea now a else a

/-- What a reload makes of a session, given the row of its area. -/
def reloadedSession (f : Fleet σ) (now : Instant) (row : Option AreaRecord) (x : Session) :
    Session :=
  match row with
  | none => x.unbindArea
  | some r =>
    if f.isCut r ∧ f.liveIds r.id now ≠ [] then
      x.recut (f.liveIds r.id now) (f.areas.renewed (.lenient r)).route.length
    else x

section

variable (h : (rows.map (·.id)).Nodup)
include h

theorem find?_reconcile (id : Int) :
    (f.reconcile rows).areas.find? id =
      (rows.find? (·.id = id)).map fun r => f.areas.renewed (.lenient r) := by
  rw [(reconcile_keeps f rows).2.2, Areas.find?_apply_eq (nodup_ids_lenient h), List.find?_map,
    Option.map_map]
  rfl

theorem mem_affected_iff {r : AreaRecord} (hr : r ∈ rows) :
    r.id ∈ f.affected rows ↔ f.isCut r := by
  have hds := nodup_ids_lenient h
  have hmem : Definition.lenient r ∈ rows.map Definition.lenient := List.mem_map_of_mem hr
  have hone (p : Definition → Bool) :
      r.id ∈ ((rows.map Definition.lenient).filter p).map (·.id) ↔ p (.lenient r) := by
    constructor
    · intro hin
      obtain ⟨d, hd, hid⟩ := List.mem_map.mp hin
      obtain ⟨hd, hp⟩ := List.mem_filter.mp hd
      rwa [← Keyed.eq_of_key (k := Definition.id) hds hd hmem hid]
    · exact fun hp => List.mem_map.mpr ⟨_, List.mem_filter.mpr ⟨hmem, hp⟩, rfl⟩
  rw [affected, Reconciliation.affected, List.mem_append, Areas.added_apply hds,
    Areas.changed_apply hds, List.mem_mergeSort, List.mem_mergeSort, hone, hone, isCut,
    Bool.or_eq_true]

theorem unbound_of_row {r : AreaRecord} (hr : r ∈ rows) {x : Session} (hx : x.area = some r.id) :
    unbound (changesOf f.areas rows).removed x = x := by
  refine if_neg ?_
  rintro ⟨area, harea, ha⟩
  obtain rfl : r.id = area := Option.some.inj (hx.symm.trans ha)
  exact ((mem_removed_changesOf h f.areas).mp harea).2 (List.mem_map_of_mem hr)

theorem liveIds_reconcile_of_row (hd : f.sessions.Distinct) {r : AreaRecord} (hr : r ∈ rows) :
    (f.reconcile rows).liveIds r.id now = f.liveIds r.id now := by
  have hlist : (f.reconcile rows).sessions.list =
      f.sessions.list.map (unbound (changesOf f.areas rows).removed) := list_reconcile hd rows
  have hsame (x : Session) (hx : x.area = some r.id) := unbound_of_row (f := f) h hr hx
  have hiff (x : Session) : (unbound (changesOf f.areas rows).removed x).area = some r.id ↔
      x.area = some r.id := by
    refine ⟨fun hx => ?_, fun hx => by rwa [hsame x hx]⟩
    unfold unbound at hx
    split at hx
    · cases hx
    · exact hx
  rw [liveIds, (reconcile_keeps f rows).1, Sessions.liveIds,
    Sessions.liveIn_of_elsewhere hlist hiff hsame]
  rfl

/-- After a reload an area is what it makes of the area's own row. -/
theorem find?_area_afterRows (hf : f.Sound) (id : Int) :
    (f.afterRows rows now).areas.find? id =
      (rows.find? (·.id = id)).map (f.reloadedArea now) := by
  rw [find?_recalculateAll_eq (distinct_reconcile hf.distinct rows), find?_reconcile h]
  cases hr : rows.find? (·.id = id) with
  | none => rfl
  | some r =>
    obtain ⟨hmem, rfl⟩ := (Keyed.find?_eq_some_iff (k := AreaRecord.id) h).mp hr
    have hid : (f.areas.renewed (.lenient r)).id = r.id := (f.areas.reads_renewed _).id
    simp only [Option.map_some, mem_affected_iff h hmem, reloadedArea, cutArea, hid,
      liveIds_reconcile_of_row h hf.distinct hmem]

/-- After a reload a session is what it makes of the row of the session's area. -/
theorem find?_session_afterRows [Store σ] (hf : f.Sound) (ho : f.Ordered) {x : Session}
    (hx : x ∈ f.sessions.list) :
    (f.afterRows rows now).sessions.find? x.id = some
      (match x.area with
        | none => x
        | some area => f.reloadedSession now (rows.find? (·.id = area)) x) := by
  cases ha : x.area with
  | none =>
    have hbound : unbound (changesOf f.areas rows).removed x = x := by
      refine if_neg ?_
      rintro ⟨area, -, harea⟩
      rw [ha] at harea
      cases harea
    refine find?_afterRows now hf ho h hx rfl ?_
    rw [hbound]
    exact recutIn_of_not_mem fun area harea => by rw [ha] at harea; cases harea
  | some area =>
    dsimp only
    cases hrow : rows.find? (·.id = area) with
    | none =>
      have hremoved : area ∈ (changesOf f.areas rows).removed := by
        refine (mem_removed_changesOf h f.areas).mpr ⟨?_, ?_⟩
        · rw [← Areas.isSome_find?_iff, ← Areas.route?_isSome_iff]
          exact (hf.fits x hx).registered area ha
        · rw [← Keyed.isSome_find?_iff (k := AreaRecord.id), hrow]
          exact Bool.false_ne_true
      have hunbound : unbound (changesOf f.areas rows).removed x = x.unbindArea :=
        if_pos ⟨area, hremoved, ha⟩
      refine find?_afterRows now hf ho h hx rfl ?_
      rw [hunbound]
      exact recutIn_of_not_mem fun other hother => by cases hother
    | some r =>
      obtain ⟨hmem, rfl⟩ := (Keyed.find?_eq_some_iff (k := AreaRecord.id) h).mp hrow
      have hroute : (f.reconcile rows).route? r.id =
          some (f.areas.renewed (.lenient r)).route := by
        rw [route?, Areas.route?, find?_reconcile h, hrow]
        rfl
      have hrecut : (f.reconcile rows).recutIn (f.affected rows) now x =
          f.reloadedSession now (some r) x := by
        simp only [recutIn, reloadedSession, ha, mem_affected_iff h hmem,
          liveIds_reconcile_of_row h hf.distinct hmem, hroute, Option.getD_some]
      refine find?_afterRows now hf ho h hx ?_ ?_
      · rw [← hrecut, (f.reconcile rows).sameButWalk_recutIn _ _ _ |>.id]
      · rw [unbound_of_row h hmem ha, hrecut]

end

/-! ### Two tables that differ in one row -/

/-- Two fleets agree on every area but one, and on every session that `f` had outside of it. -/
structure AgreeAside (f : Fleet σ) (area : Int) (g g' : Fleet σ) : Prop where
  areas : ∀ id ≠ area, g.areas.find? id = g'.areas.find? id
  sessions : ∀ x ∈ f.sessions.list, x.area ≠ some area →
    ∃ y, g.sessions.find? x.id = some y ∧ g'.sessions.find? x.id = some y

section

variable {rows' : List AreaRecord} {b : Int} (h : (rows.map (·.id)).Nodup)
  (h' : (rows'.map (·.id)).Nodup) (hsame : ∀ r, r.id ≠ b → (r ∈ rows ↔ r ∈ rows'))
include h h' hsame

theorem find?_row_eq {id : Int} (hne : id ≠ b) :
    rows.find? (·.id = id) = rows'.find? (·.id = id) := by
  ext r
  rw [Keyed.find?_eq_some_iff (k := AreaRecord.id) h,
    Keyed.find?_eq_some_iff (k := AreaRecord.id) h']
  refine and_congr_left fun hid => hsame r ?_
  rwa [hid]

theorem agreeAside_afterRows [Store σ] (hf : f.Sound) (ho : f.Ordered) (s s' : σ) :
    f.AgreeAside b ({ f with store := s }.afterRows rows now)
      ({ f with store := s' }.afterRows rows' now) := by
  -- a fleet with another store makes the same of a row
  have hsound (t : σ) : Sound { f with store := t } := hf.extends ⟨rfl, rfl, fun _ hr => hr⟩
  have hordered (t : σ) : Ordered { f with store := t } := ho.sameWork ⟨rfl, rfl, rfl⟩
  constructor
  case areas =>
    intro id hne
    rw [find?_area_afterRows h (hsound s), find?_area_afterRows h' (hsound s'),
      find?_row_eq h h' hsame hne]
    rfl
  case sessions =>
    intro x hx hother
    refine ⟨_, find?_session_afterRows h (hsound s) (hordered s) hx, ?_⟩
    rw [find?_session_afterRows h' (hsound s') (hordered s') hx]
    cases ha : x.area with
    | none => rfl
    | some area =>
      have hne : area ≠ b := fun heq => hother (by rw [ha, heq])
      dsimp only
      rw [find?_row_eq h h' hsame hne]
      rfl

omit h h' in
theorem mem_rowIds_iff {id : Int} (hne : id ≠ b) :
    id ∈ rows.map (·.id) ↔ id ∈ rows'.map (·.id) := by
  simp only [List.mem_map]
  refine exists_congr fun r => and_congr_left fun hid => hsame r ?_
  rwa [hid]

omit h h' hsame in
theorem filter_eq_of_mem_iff {l l' : List Int} (hl : l.Pairwise (· < ·)) (hl' : l'.Pairwise (· < ·))
    (hmem : ∀ id ≠ b, id ∈ l ↔ id ∈ l') : l.filter (· ≠ b) = l'.filter (· ≠ b) := by
  have hf := hl.filter (· ≠ b)
  have hf' := hl'.filter (· ≠ b)
  have hperm : (l.filter (· ≠ b)).Perm (l'.filter (· ≠ b)) := by
    rw [List.perm_ext_iff_of_nodup (hf.imp Int.ne_of_lt) (hf'.imp Int.ne_of_lt)]
    intro id
    simp only [List.mem_filter, decide_eq_true_eq]
    exact and_congr_left fun hne => hmem id hne
  exact hperm.eq_of_pairwise (fun x y _ _ hlt hgt => by omega) hf hf'

theorem agreeAside_changesOf (hf : f.Ordered) :
    (changesOf f.areas rows).AgreeAside b (changesOf f.areas rows') where
  added := by
    refine filter_eq_of_mem_iff (Areas.pairwise_added (nodup_ids_lenient h) _)
      (Areas.pairwise_added (nodup_ids_lenient h') _) fun id hne => ?_
    rw [mem_added_changesOf h, mem_added_changesOf h', mem_rowIds_iff hsame hne]
  changed := by
    refine filter_eq_of_mem_iff (Areas.pairwise_changed (nodup_ids_lenient h) _)
      (Areas.pairwise_changed (nodup_ids_lenient h') _) fun id hne => ?_
    rw [mem_changed_changesOf h, mem_changed_changesOf h']
    refine exists_congr fun r => ?_
    constructor
    · rintro ⟨hr, rfl, hdiffers⟩
      exact ⟨(hsame r hne).mp hr, rfl, hdiffers⟩
    · rintro ⟨hr, rfl, hdiffers⟩
      exact ⟨(hsame r hne).mpr hr, rfl, hdiffers⟩
  removed := by
    refine filter_eq_of_mem_iff (Areas.pairwise_removed hf.areas _)
      (Areas.pairwise_removed hf.areas _) fun id hne => ?_
    rw [mem_removed_changesOf h, mem_removed_changesOf h', mem_rowIds_iff hsame hne]

end

/-- In every state, reloads of two tables that differ in one row make the same of every area but
that of the row, and of every session that is not bound to it. -/
theorem run_reload_aside [Store σ] (settings : Settings) (store : σ) (events : List (Event σ))
    (now : Instant) (b : Int) {s s' : σ} {rows rows' : List AreaRecord}
    (hload : Store.loadAreas s = .ok rows) (hload' : Store.loadAreas s' = .ok rows')
    (h : (rows.map (·.id)).Nodup) (h' : (rows'.map (·.id)).Nodup)
    (hsame : ∀ r, r.id ≠ b → (r ∈ rows ↔ r ∈ rows')) :
    let f := (Fleet.new settings store).run events
    let g := { f with store := s }.reloadAreas now
    let g' := { f with store := s' }.reloadAreas now
    f.AgreeAside b g.2 g'.2 ∧
      ∃ c c', g.1 = .ok c ∧ g'.1 = .ok c' ∧ c.AgreeAside b c' := by
  have hsound := (sound_new settings store).run events
  have hordered := (ordered_new settings store).run (sound_new settings store) events
  intro f g g'
  have hfst {t : σ} {rows : List AreaRecord} (ht : Store.loadAreas t = .ok rows) :
      ({ f with store := t }.reloadAreas now).1 = .ok (changesOf f.areas rows) := by
    unfold reloadAreas
    rw [ht]
    rfl
  have hsnd {t : σ} {rows : List AreaRecord} (ht : Store.loadAreas t = .ok rows) :
      ({ f with store := t }.reloadAreas now).2 = { f with store := t }.afterRows rows now := by
    rw [reloadAreas_snd, ht]
  refine ⟨?_, _, _, hfst hload, hfst hload', agreeAside_changesOf h h' hsame hordered⟩
  rw [show g.2 = _ from hsnd hload, show g'.2 = _ from hsnd hload']
  exact agreeAside_afterRows h h' hsame hsound hordered s s'

/-- The table of `movedRows` in which the route of area 1 cannot be read. -/
def malformedRows : List AreaRecord :=
  [{ (default : AreaRecord) with id := 1, pokemonWorkers := 1, pokemonRoute := some "5 5,oops" },
    { (default : AreaRecord) with id := 3, pokemonRoute := some "7 7" }]

theorem run_reload_aside_malformed :
    let store := { Tables.empty with areas := [
      { (default : AreaRecord) with id := 1, pokemonWorkers := 1, pokemonRoute := some "1 1,2 2" },
      { (default : AreaRecord) with id := 2, pokemonWorkers := 1, pokemonRoute := some "3 3" }] }
    let f := (Fleet.new smallSettings store).run (movedRun.take 3)
    let g := { f with store := { Tables.empty with areas := movedRows } }.reloadAreas 1
    let g' := { f with store := { Tables.empty with areas := malformedRows } }.reloadAreas 1
    g.2.areas.list.map (fun a => (a.id, a.route.length)) = [(1, 2), (3, 1)] ∧
      g'.2.areas.list.map (fun a => (a.id, a.route.length)) = [(1, 0), (3, 1)] ∧
      f.AgreeAside 1 g.2 g'.2 ∧ ∃ c c', g.1 = .ok c ∧ g'.1 = .ok c' ∧ c.AgreeAside 1 c' := by
  intro store f g g'
  have hsame : ∀ r : AreaRecord, r.id ≠ 1 → (r ∈ movedRows ↔ r ∈ malformedRows) := by
    intro r hr
    simp only [movedRows, malformedRows, List.mem_cons, List.not_mem_nil, or_false]
    have hne {q : AreaRecord} (hq : q.id = 1) : r ≠ q := fun heq => hr (heq ▸ hq)
    exact or_congr_left (iff_of_false (hne rfl) (hne rfl))
  exact ⟨by decide +kernel, by decide +kernel,
    run_reload_aside smallSettings store (movedRun.take 3) 1 1 rfl rfl (by decide) (by decide)
      hsame⟩

end Fleet

end ScanFleet
