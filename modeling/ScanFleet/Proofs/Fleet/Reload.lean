import ScanFleet.Fleet.Reload
import ScanFleet.Proofs.Area.Columns
import ScanFleet.Proofs.Fleet.Duties

/-! Startups and reloads of the areas.  A startup adds areas and leaves the sessions alone.  A
reload reconciles the areas, unbinds the workers of those that are removed, and then makes its cuts,
which are moves. -/

namespace ScanFleet.Fleet

variable {σ : Type}

/-! ### Startups -/

/-- `g` has the settings and the sessions of `f`, and no area of `f` is gone. -/
structure Extends (f g : Fleet σ) : Prop where
  settings : g.settings = f.settings
  sessions : g.sessions = f.sessions
  registered : ∀ area, (f.route? area).isSome → (g.route? area).isSome

theorem SameWork.extends {f g : Fleet σ} (h : SameWork f g) : Extends f g :=
  ⟨h.settings, h.sessions, fun area ha => by rwa [h.route?]⟩

theorem Extends.trans {f g h : Fleet σ} (h1 : Extends f g) (h2 : Extends g h) : Extends f h :=
  ⟨h2.settings.trans h1.settings, h2.sessions.trans h1.sessions,
    fun area ha => h2.registered area (h1.registered area ha)⟩

theorem Sound.extends {f g : Fleet σ} (hf : f.Sound) (h : Extends f g) : g.Sound := by
  refine ⟨by rw [h.sessions]; exact hf.distinct, fun x hx => ?_⟩
  rw [h.sessions] at hx
  exact (hf.fits x hx).congr h.registered

theorem registerAll_keeps (f : Fleet σ) (rows : List AreaRecord) :
    Extends f (f.registerAll rows).2 ∧ (f.registerAll rows).2.pool = f.pool := by
  induction rows generalizing f with
  | nil => exact ⟨(SameWork.refl f).extends, rfl⟩
  | cons r rows ih =>
    unfold registerAll
    split
    next => exact ⟨(SameWork.refl f).extends, rfl⟩
    next d hd =>
      have hone : Extends f { f with areas := f.areas.register d } := by
        refine ⟨rfl, rfl, fun area ha => ?_⟩
        rw [route?, Areas.route?_isSome_iff] at ha ⊢
        rw [Areas.find?_register]
        split
        · rfl
        · exact ha
      exact ⟨hone.trans (ih _).1, (ih _).2⟩

theorem store_registerAll (f : Fleet σ) (rows : List AreaRecord) :
    (f.registerAll rows).2.store = f.store := by
  induction rows generalizing f with
  | nil => rfl
  | cons r rows ih =>
    unfold registerAll
    split
    · rfl
    next d _ => exact ih { f with areas := f.areas.register d }

/-- A startup that reads every row makes each area anew that has one. -/
theorem find?_registerAll {f : Fleet σ} {rows : List AreaRecord}
    (h : (f.registerAll rows).1 = .ok ()) (hnodup : (rows.map (·.id)).Nodup) (id : Int) :
    (f.registerAll rows).2.areas.find? id =
      match rows.find? (·.id = id) with
      | some r => some (.ofDefinition (.lenient r))
      | none => f.areas.find? id := by
  induction rows generalizing f with
  | nil => rfl
  | cons r rows ih =>
    obtain ⟨hr, hnodup⟩ := List.nodup_cons.mp hnodup
    unfold registerAll at h ⊢
    cases hd : Definition.strict r with
    | error e =>
      rw [hd] at h
      cases h
    | ok d =>
      rw [hd] at h
      obtain rfl := Definition.lenient_of_strict hd
      have hid : (Definition.lenient r).id = r.id := rfl
      dsimp only at h ⊢
      rw [ih h hnodup]
      dsimp only
      rw [Areas.find?_register, List.find?_cons, hid]
      by_cases he : r.id = id
      · subst he
        have hnone : rows.find? (·.id = r.id) = none := by
          rw [← Option.not_isSome_iff_eq_none, Keyed.isSome_find?_iff (k := AreaRecord.id)]
          exact hr
        simp [hnone]
      · simp [he, Ne.symm he]

section

variable [Store σ]

/-- The fleet of a startup after its accounts were loaded. -/
def bootstrapAccounts (f : Fleet σ) (now : Instant) : Fleet σ :=
  { f with store := (Store.releaseAll now f.store).2 }.reloadAccounts.2

/-- What a startup does: it fails before it reads a row, or it registers the rows that it reads, and
all of them if it succeeds. -/
theorem bootstrap_cases (f : Fleet σ) (now : Instant) :
    ((∃ e, (f.bootstrap now).1 = .error e) ∧ (f.bootstrap now).2 = f.bootstrapAccounts now) ∨
      ∃ rows, Store.loadAreas (f.bootstrapAccounts now).store = .ok rows ∧
        (f.bootstrap now).2 = ((f.bootstrapAccounts now).registerAll rows).2 ∧
        ∀ counts, (f.bootstrap now).1 = .ok counts →
          ((f.bootstrapAccounts now).registerAll rows).1 = .ok () := by
  unfold bootstrap bootstrapAccounts
  dsimp only
  cases { f with store := (Store.releaseAll now f.store).2 }.reloadAccounts with
  | mk accounts g =>
    cases accounts with
    | error e => exact .inl ⟨⟨e, rfl⟩, rfl⟩
    | ok _ =>
      dsimp only
      cases hrows : Store.loadAreas g.store with
      | error e => exact .inl ⟨⟨e, rfl⟩, rfl⟩
      | ok rows =>
        refine .inr ⟨rows, rfl, ?_⟩
        dsimp only
        cases g.registerAll rows with
        | mk result g' =>
          cases result with
          | error e => exact ⟨rfl, nofun⟩
          | ok _ => exact ⟨rfl, fun _ _ => rfl⟩

theorem bootstrap_ok {f : Fleet σ} {now : Instant} {counts : StartupCounts}
    (h : (f.bootstrap now).1 = .ok counts) :
    ∃ rows, Store.loadAreas (f.bootstrapAccounts now).store = .ok rows ∧
      (f.bootstrap now).2 = ((f.bootstrapAccounts now).registerAll rows).2 ∧
      ((f.bootstrapAccounts now).registerAll rows).1 = .ok () := by
  rcases f.bootstrap_cases now with ⟨⟨e, he⟩, -⟩ | ⟨rows, hrows, hsnd, hall⟩
  · rw [he] at h
    cases h
  · exact ⟨rows, hrows, hsnd, hall counts h⟩

theorem sameWork_bootstrapAccounts (f : Fleet σ) (now : Instant) :
    SameWork f (f.bootstrapAccounts now) := by
  have hwork := sameWork_reloadAccounts { f with store := (Store.releaseAll now f.store).2 }
  have hstore : SameWork f { f with store := (Store.releaseAll now f.store).2 } := ⟨rfl, rfl, rfl⟩
  exact hstore.trans hwork

theorem bootstrapAccounts_keeps (f : Fleet σ) (now : Instant) :
    Extends f (f.bootstrapAccounts now) ∧
      (f.bootstrapAccounts now).pool = f.pool.load (f.bootstrapRows now) :=
  ⟨(sameWork_bootstrapAccounts f now).extends, reloadAccounts_pool _⟩

theorem bootstrap_keeps (f : Fleet σ) (now : Instant) :
    Extends f (f.bootstrap now).2 ∧
      (f.bootstrap now).2.pool = f.pool.load (f.bootstrapRows now) := by
  obtain ⟨hext, hpool⟩ := bootstrapAccounts_keeps f now
  rcases bootstrap_cases f now with ⟨-, h⟩ | ⟨rows, -, h, -⟩
  · rw [h]
    exact ⟨hext, hpool⟩
  · rw [h]
    obtain ⟨hext', hpool'⟩ := registerAll_keeps (f.bootstrapAccounts now) rows
    exact ⟨hext.trans hext', hpool'.trans hpool⟩

end

/-! ### Reconciliations -/

variable {f : Fleet σ}

theorem list_unbindWorkers (hd : f.sessions.Distinct) (area : Int) :
    (f.unbindWorkers area).sessions.list = f.sessions.list.map fun x =>
      if x.area = some area then x.unbindArea else x := by
  unfold unbindWorkers workersOf
  rw [Sessions.list_modifyAll (f := Session.unbindArea) (fun _ => rfl) (fun _ => rfl)]
  refine List.map_congr_left fun x hx => ?_
  simp only [Sessions.inArea, Sessions.mem_ids_filter hd hx, decide_eq_true_eq]

theorem distinct_unbindWorkers (hd : f.sessions.Distinct) (area : Int) :
    (f.unbindWorkers area).sessions.Distinct := by
  rw [Sessions.Distinct, list_unbindWorkers hd]
  refine Sessions.Distinct.map (fun x => ?_) hd
  split <;> rfl

/-- A session after the areas `ids` were removed. -/
def unbound (ids : List Int) (x : Session) : Session :=
  if ∃ area ∈ ids, x.area = some area then x.unbindArea else x

theorem id_unbound (ids : List Int) (x : Session) : (unbound ids x).id = x.id := by
  unfold unbound
  split <;> rfl

theorem seq_unbound (ids : List Int) (x : Session) : (unbound ids x).seq = x.seq := by
  unfold unbound
  split <;> rfl

theorem username_unbound (ids : List Int) (x : Session) :
    (unbound ids x).username = x.username := by
  unfold unbound
  split <;> rfl

theorem list_foldl_unbindWorkers (hd : f.sessions.Distinct) (ids : List Int) :
    (ids.foldl unbindWorkers f).sessions.list = f.sessions.list.map (unbound ids) := by
  induction ids generalizing f with
  | nil =>
    have hid : unbound [] = id := funext fun x => by simp [unbound]
    rw [hid, List.map_id]
    rfl
  | cons area ids ih =>
    rw [List.foldl_cons, ih (distinct_unbindWorkers hd area), list_unbindWorkers hd, List.map_map]
    refine List.map_congr_left fun x _ => ?_
    by_cases ha : x.area = some area
    · simp [unbound, ha, Session.unbindArea]
    · simp [unbound, ha]

theorem unbindWorkers_keeps (f : Fleet σ) (ids : List Int) :
    let g := ids.foldl unbindWorkers f
    g.settings = f.settings ∧ g.pool = f.pool ∧ g.areas = f.areas := by
  induction ids generalizing f with
  | nil => exact ⟨rfl, rfl, rfl⟩
  | cons area ids ih => exact ih (f.unbindWorkers area)

/-- The fleet whose areas were reconciled with rows, before any route is cut. -/
def reconcile (f : Fleet σ) (rows : List AreaRecord) : Fleet σ :=
  let (r, areas) := f.areas.apply (rows.map Definition.lenient)
  (r.removed.map (·.id)).foldl unbindWorkers { f with areas }

theorem exists_list_foldl_unbindWorkers (f : Fleet σ) (ids : List Int) :
    ∃ list, (ids.foldl unbindWorkers f).sessions = { f.sessions with list } := by
  induction ids generalizing f with
  | nil => exact ⟨f.sessions.list, rfl⟩
  | cons area ids ih =>
    obtain ⟨list, hlist⟩ := f.sessions.exists_list_modifyAll (f.workersOf area) .unbindArea
    obtain ⟨list', hlist'⟩ := ih (f.unbindWorkers area)
    refine ⟨list', ?_⟩
    rw [List.foldl_cons, hlist', unbindWorkers, hlist]

theorem exists_list_reconcile (f : Fleet σ) (rows : List AreaRecord) :
    ∃ list, (f.reconcile rows).sessions = { f.sessions with list } :=
  exists_list_foldl_unbindWorkers
    { f with areas := (f.areas.apply (rows.map Definition.lenient)).2 } _

theorem list_reconcile (hd : f.sessions.Distinct) (rows : List AreaRecord) :
    (f.reconcile rows).sessions.list = f.sessions.list.map
      (unbound ((f.areas.apply (rows.map Definition.lenient)).1.removed.map (·.id))) :=
  list_foldl_unbindWorkers
    (f := { f with areas := (f.areas.apply (rows.map Definition.lenient)).2 }) hd _

theorem distinct_reconcile (hd : f.sessions.Distinct) (rows : List AreaRecord) :
    (f.reconcile rows).sessions.Distinct := by
  rw [Sessions.Distinct, list_reconcile hd]
  exact Sessions.Distinct.map (id_unbound _) hd

theorem reconcile_keeps (f : Fleet σ) (rows : List AreaRecord) :
    (f.reconcile rows).settings = f.settings ∧ (f.reconcile rows).pool = f.pool ∧
      (f.reconcile rows).areas = (f.areas.apply (rows.map Definition.lenient)).2 :=
  unbindWorkers_keeps { f with areas := (f.areas.apply (rows.map Definition.lenient)).2 } _

/-- After a reconciliation a worker is bound to the area that it was bound to, which is registered,
or to none. -/
theorem Sound.reconcile (hf : f.Sound) (rows : List AreaRecord) : (f.reconcile rows).Sound := by
  refine ⟨distinct_reconcile hf.distinct rows, fun y hy => ?_⟩
  rw [list_reconcile hf.distinct rows] at hy
  obtain ⟨x, hx, rfl⟩ := List.mem_map.mp hy
  have hfit := hf.fits x hx
  unfold unbound
  split
  next => exact .of_none rfl rfl
  next hnot =>
    refine ⟨fun area ha => ?_, hfit.bound, hfit.within⟩
    have hreg := hfit.registered area ha
    rw [route?, Areas.route?_isSome_iff] at hreg ⊢
    rw [(reconcile_keeps f rows).2.2]
    exact (Areas.find?_apply f.areas _ hreg).resolve_right fun hm => hnot ⟨area, hm, ha⟩

/-! ### Reloads -/

/-- The areas whose routes are cut after a reconciliation with rows. -/
def affected (f : Fleet σ) (rows : List AreaRecord) : List Int :=
  (f.areas.apply (rows.map Definition.lenient)).1.affected

def recalculateAll (f : Fleet σ) (areas : List Int) (now : Instant) : Fleet σ :=
  areas.foldl (fun f area => (f.recalculate area now).2) f

variable [Store σ]

theorem reloadAreas_snd (f : Fleet σ) (now : Instant) :
    (f.reloadAreas now).2 =
      match Store.loadAreas f.store with
      | .error _ => f
      | .ok rows => (f.reconcile rows).recalculateAll (f.affected rows) now := by
  unfold reloadAreas
  split <;> simp_all [reconcile, affected, recalculateAll]

theorem store_reloadAreas (f : Fleet σ) (now : Instant) :
    (f.reloadAreas now).2.store = f.store := by
  rw [reloadAreas_snd]
  split
  · rfl
  next rows _ =>
    refine List.foldlRecOn (motive := fun g : Fleet σ => g.store = f.store) _ _ ?_ ?_
    · exact List.foldlRecOn (motive := fun g : Fleet σ => g.store = f.store) _ _ rfl
        fun _ hg _ _ => hg
    · intro g hg area _
      unfold recalculate
      split <;> exact hg

theorem quietMoves_recalculateAll (f : Fleet σ) (areas : List Int) (now : Instant) :
    QuietMoves now f (f.recalculateAll areas now) := by
  induction areas generalizing f with
  | nil => exact .refl
  | cons area areas ih => exact .head (.recut f area) (ih (f.recalculate area now).2)

end ScanFleet.Fleet
