import ScanFleet.Proofs.Fleet.QuestRoutes
import ScanFleet.Proofs.Fleet.Reconciliation
import ScanFleet.Proofs.Geo.Written

/-! Reloads of a table that nobody edited.  Since the table was loaded, what the fleet has of an
area agrees with its row, and a rebuild changes both.  A start of quest scanning changes the fleet
alone when it makes a quest route: the area strays from its row.  A reload takes the route of an
area that has strayed away and ends its quest pass, and it disturbs no other area. -/

namespace ScanFleet

open Relation

/-- What a row says about its area. -/
def AreaRecord.chart (r : AreaRecord) : Chart where
  target := r.target
  route := lenientColumn r.pokemonRoute
  questRoute := lenientColumn r.questRoute
  fence := ⟨lenientColumn r.fence⟩

/-- Whether the route or the fence of a row has a coordinate that is not a number. -/
def AreaRecord.hasNaN (r : AreaRecord) : Bool :=
  (lenientColumn r.pokemonRoute).hasNaN || (lenientColumn r.fence).hasNaN

namespace Chart

/-- The chart agrees with what a row says, but for the quest route. -/
structure Follows (c d : Chart) : Prop where
  target : c.target = d.target
  route : Route.Same c.route d.route
  fence : c.fence.Same d.fence

/-- The quest route has as many steps as in the row, unless the area may have strayed from a row
without one. -/
def QuestFollows (c d : Chart) (astray : Prop) : Prop :=
  c.questRoute.length = d.questRoute.length ∨ astray ∧ c.questRoute ≠ [] ∧ d.questRoute = []

/-- A chart that agrees with a row differs from it where a coordinate is not a number. -/
theorem Follows.differs_eq {c d : Chart} (h : c.Follows d) :
    (c.route != d.route || c.target != d.target || c.fence != d.fence) =
      (d.route.hasNaN || Route.hasNaN d.fence.points) := by
  have htarget : (c.target != d.target) = false := by rw [h.target, bne_self_eq_false]
  rw [htarget, Bool.or_false, bne, bne, h.route.beq_eq, h.fence.beq_eq, Bool.not_not, Bool.not_not]

end Chart

namespace Atlas

/-- The charts agree with the rows, where quest routes of areas `astray` may have no row. -/
structure Tracks (astray : Int → Prop) (t : Atlas) : Prop where
  nodup : (t.rows.map (·.id)).Nodup
  writable : t.readOnly = false
  charted : ∀ id, (t.chart? id).isSome ↔ id ∈ t.rows.map (·.id)
  follows : ∀ r ∈ t.rows, ∀ c, t.chart? r.id = some c →
    c.Follows r.chart ∧ c.QuestFollows r.chart (astray r.id)

/-- Charts that are read off the rows. -/
theorem tracks_of_chart? {astray : Int → Prop} {t : Atlas} (hids : (t.rows.map (·.id)).Nodup)
    (hw : t.readOnly = false)
    (h : ∀ id, t.chart? id = (t.rows.find? (·.id = id)).map (·.chart)) : t.Tracks astray := by
  constructor
  case nodup => exact hids
  case writable => exact hw
  case charted =>
    intro id
    rw [h, Option.isSome_map, Keyed.isSome_find?_iff (k := AreaRecord.id)]
  case follows =>
    intro r hr c hc
    have hfind : t.rows.find? (·.id = r.id) = some r :=
      (Keyed.find?_eq_some_iff (k := AreaRecord.id) hids).mpr ⟨hr, rfl⟩
    rw [h, hfind] at hc
    cases hc
    exact ⟨⟨rfl, .refl _, .refl _⟩, .inl rfl⟩

namespace Tracks

variable {astray : Int → Prop} {t t' : Atlas}

/-- A change of one area and its row. -/
theorem update (h : t.Tracks astray) {id : Int} {c : Chart} {rows : List AreaRecord}
    (hid : id ∈ t.rows.map (·.id)) (hids : rows.map (·.id) = t.rows.map (·.id))
    (hothers : ∀ r ∈ rows, r.id ≠ id → r ∈ t.rows)
    (hnew : ∀ r ∈ rows, r.id = id → c.Follows r.chart ∧ c.QuestFollows r.chart (astray r.id)) :
    Tracks astray ⟨Function.update t.chart? id (some c), rows, t.readOnly⟩ := by
  constructor
  case nodup =>
    rw [hids]
    exact h.nodup
  case writable => exact h.writable
  case charted =>
    intro other
    dsimp only
    rw [hids]
    by_cases ho : other = id
    · subst ho
      rw [Function.update_self]
      exact iff_of_true rfl hid
    · rw [Function.update_of_ne ho]
      exact h.charted other
  case follows =>
    intro r hr d hd
    dsimp only at hr hd
    by_cases ho : r.id = id
    · rw [ho, Function.update_self] at hd
      cases hd
      exact hnew r hr ho
    · rw [Function.update_of_ne ho] at hd
      exact h.follows r (hothers r hr ho) d hd

theorem mem_ids (h : t.Tracks astray) {id : Int} {c : Chart} (hc : t.chart? id = some c) :
    id ∈ t.rows.map (·.id) := (h.charted id).mp (Option.isSome_of_eq_some hc)

/-- An area takes over what its row says. -/
theorem load (h : t.Tracks astray) {r : AreaRecord} (hr : r ∈ t.rows) :
    Tracks astray { t with chart? := Function.update t.chart? r.id (some r.chart) } := by
  refine h.update (List.mem_map_of_mem hr) rfl (fun s hs _ => hs) fun s hs hid => ?_
  have hsame : s = r := Keyed.eq_of_key (k := AreaRecord.id) h.nodup hs hr hid
  rw [hsame]
  exact ⟨⟨rfl, .refl _, .refl _⟩, .inl rfl⟩

theorem improvise (h : t.Tracks astray) {id : Int} {c : Chart} {route : Route}
    (hc : t.chart? id = some c) (hempty : c.questRoute = []) (hroute : route ≠ [])
    (hid : astray id) : (t.improvise id c route).Tracks astray := by
  refine h.update (h.mem_ids hc) rfl (fun r hr _ => hr) fun r hr he => ?_
  subst he
  obtain ⟨hfollows, hquest⟩ := h.follows r hr c hc
  refine ⟨⟨hfollows.target, hfollows.route, hfollows.fence⟩, .inr ⟨hid, hroute, ?_⟩⟩
  -- An area without a quest route has not strayed, so its row is without one too.
  rcases hquest with hlen | ⟨-, hne, -⟩
  · rw [hempty] at hlen
    exact List.length_eq_zero_iff.mp hlen.symm
  · exact absurd hempty hne

theorem rebuild (h : t.Tracks astray) (ht : Rebuilds t t') : t'.Tracks astray := by
  cases ht with
  | @intro id c route hc hroute =>
    unfold Atlas.rebuild
    rw [h.writable, if_neg (by decide)]
    refine h.update (h.mem_ids hc) ?_ ?_ ?_
    · rw [List.map_map]
      refine List.map_congr_left fun r _ => ?_
      simp only [Function.comp_apply]
      split <;> rfl
    · intro r' hr' hne
      obtain ⟨r, hr, rfl⟩ := List.mem_map.mp hr'
      split at hne
      next he => exact absurd he hne
      next he => rwa [if_neg he]
    · intro r' hr' he
      obtain ⟨r, hr, rfl⟩ := List.mem_map.mp hr'
      split at he
      next =>
        subst he
        -- The row holds rounded coordinates: what reads back has other steps, but as many.
        obtain ⟨s, hs, hlen⟩ := Route.read_text route
        have hfollows := (h.follows r hr c hc).1
        rw [if_pos rfl]
        refine ⟨⟨hfollows.target, hfollows.route, hfollows.fence⟩, .inl ?_⟩
        simp [AreaRecord.chart, lenientColumn, readColumn, hs, Except.toOption, hlen]
      next hne => exact absurd he hne

theorem rebuilds (h : t.Tracks astray) (ht : ReflTransGen Rebuilds t t') : t'.Tracks astray := by
  induction ht with
  | refl => exact h
  | tail _ hstep ih => exact ih.rebuild hstep

end Tracks

end Atlas

namespace Fleet

variable {astray : Int → Prop} {f : Fleet Tables}

/-! ### Loads -/

theorem chart?_register (as : Areas) (r : AreaRecord) :
    (as.register (.lenient r)).chart? = Function.update as.chart? r.id (some r.chart) := by
  have hid : (Definition.lenient r).id = r.id := rfl
  funext id
  rw [Areas.chart?, Areas.find?_register, hid]
  by_cases h : id = r.id
  · subst h
    rw [if_pos rfl, Function.update_self]
    rfl
  · rw [if_neg h, Function.update_of_ne h, Areas.chart?]

/-- A startup may stop at any row; the areas before it agree with theirs. -/
theorem tracks_registerAll (h : f.atlas.Tracks astray) {rows : List AreaRecord}
    (hrows : ∀ r ∈ rows, r ∈ f.store.areas) : (f.registerAll rows).2.atlas.Tracks astray := by
  induction rows generalizing f with
  | nil => exact h
  | cons r rows ih =>
    unfold Fleet.registerAll
    split
    next => exact h
    next d hd =>
      rw [List.forall_mem_cons] at hrows
      rw [← Definition.lenient_of_strict hd]
      refine ih ?_ hrows.2
      have hload := h.load (r := r) hrows.1
      rwa [show f.atlas.chart? = f.areas.chart? from rfl, ← chart?_register] at hload

theorem chart?_registerAll {rows : List AreaRecord} (h : (f.registerAll rows).1 = .ok ())
    (hnodup : (rows.map (·.id)).Nodup) (id : Int) :
    (f.registerAll rows).2.areas.chart? id =
      match rows.find? (·.id = id) with
      | some r => some r.chart
      | none => f.areas.chart? id := by
  rw [Areas.chart?, find?_registerAll h hnodup]
  cases rows.find? (·.id = id) <;> rfl

theorem tracks_bootstrap (h : f.atlas.Tracks astray) (now : Instant) :
    (f.bootstrap now).2.atlas.Tracks astray := by
  have haccounts : (f.bootstrapAccounts now).atlas.Tracks astray :=
    f.atlas_bootstrapAccounts now ▸ h
  rcases f.bootstrap_cases now with ⟨-, hsnd⟩ | ⟨rows, hrows, hsnd, -⟩
  · rwa [hsnd]
  · rw [hsnd]
    cases hrows
    exact tracks_registerAll haccounts fun r hr => hr

/-- After a startup that reads every row, the areas agree with the rows if every area has one. -/
theorem tracks_of_startup (hids : (f.store.areas.map (·.id)).Nodup)
    (hw : f.store.readOnly = false) (hareas : ∀ id ∈ f.areas.ids, id ∈ f.store.areas.map (·.id))
    {now : Instant} {counts : StartupCounts} (h : (f.bootstrap now).1 = .ok counts) :
    (f.bootstrap now).2.atlas.Tracks astray := by
  obtain ⟨rows, hload, hsnd, hok⟩ := bootstrap_ok h
  have haccounts := f.atlas_bootstrapAccounts now
  have hrows : (f.bootstrapAccounts now).store.areas = f.store.areas :=
    congrArg Atlas.rows haccounts
  obtain rfl : f.store.areas = rows := hrows.symm.trans (Except.ok.inj hload)
  have hchart := chart?_registerAll hok hids
  have hstore := store_registerAll (f.bootstrapAccounts now) f.store.areas
  have hwrites : (f.bootstrapAccounts now).store.readOnly = f.store.readOnly :=
    congrArg Atlas.readOnly haccounts
  have hknown : (f.bootstrapAccounts now).areas.chart? = f.areas.chart? :=
    congrArg Atlas.chart? haccounts
  rw [hsnd]
  unfold atlas
  rw [hstore, hrows, hwrites]
  refine Atlas.tracks_of_chart? hids hw fun id => ?_
  dsimp only
  rw [hchart, hknown]
  cases hr : f.store.areas.find? (·.id = id) with
  | some r => rfl
  | none =>
    have hnot : id ∉ f.areas.ids := fun hmem => by
      have hrow := Keyed.isSome_find?_iff.mpr (hareas id hmem)
      rw [hr] at hrow
      cases hrow
    rw [← Areas.isSome_chart?_iff, Option.not_isSome_iff_eq_none] at hnot
    exact hnot

theorem reloaded_reloadAreas (hf : f.Sound) (ho : f.Ordered)
    (hids : (f.store.areas.map (·.id)).Nodup) (now : Instant) :
    Reloaded f f.store.areas now (changesOf f.areas f.store.areas) (f.reloadAreas now).2 := by
  have hload : Store.loadAreas f.store = .ok f.store.areas := rfl
  rw [reloadAreas_snd, hload]
  exact reloaded now hf ho hids

/-- After a reload the areas agree with the rows. -/
theorem tracks_reloadAreas (hf : f.Sound) (ho : f.Ordered)
    (hids : (f.store.areas.map (·.id)).Nodup) (hw : f.store.readOnly = false) (now : Instant) :
    (f.reloadAreas now).2.atlas.Tracks astray := by
  have hstore := f.store_reloadAreas now
  have hreloaded := reloaded_reloadAreas hf ho hids now
  generalize (f.reloadAreas now).2 = g at hstore hreloaded ⊢
  unfold atlas
  rw [hstore]
  constructor
  case nodup => exact hids
  case writable => exact hw
  case charted =>
    intro id
    rw [← hreloaded.ids]
    exact Areas.isSome_chart?_iff
  case follows =>
    intro r hr c hc
    obtain ⟨a, ha, hreads⟩ := hreloaded.reads r hr
    dsimp only at hc
    rw [Areas.chart?_of_find? ha] at hc
    cases hc
    exact ⟨⟨hreads.target, hreads.route, hreads.fence⟩, .inl hreads.questRoute.length_eq⟩

/-! ### Runs -/

/-- The areas of a fleet in a reachable state agree with the rows of its store. -/
structure Charted (astray : Int → Prop) (f : Fleet Tables) : Prop extends Sound f, Ordered f where
  tracks : f.atlas.Tracks astray

namespace Charted

theorem after (h : f.Charted astray) {e : Event Tables} (he : f.LeavesAreas e)
    (hstray : ∀ id ∈ f.improvised e, astray id) : (f.after e).Charted astray := by
  refine ⟨h.toSound.after e, h.toOrdered.after h.toSound e, ?_⟩
  have hmapped := mapped h.tracks.writable he
  -- What the event improvised is read off `f.after e`, which the inversion is about to replace.
  have hmem {id : Int} {c : Chart} {route : Route} (hstart : e.startsQuests)
      (hc : f.atlas.chart? id = some c) (hempty : c.questRoute = []) (hroute : route ≠ [])
      (hafter : (f.after e).atlas = f.atlas.improvise id c route) : astray id :=
    hstray id (mem_improvised hstart hc hempty hroute hafter)
  generalize f.after e = g at hmapped hmem ⊢
  cases hmapped with
  | same hsame =>
    rw [hsame]
    exact h.tracks
  | start hstart himprovises =>
    generalize hg : g.atlas = t at himprovises ⊢
    cases himprovises with
    | refl => exact h.tracks
    | single himprovises =>
      cases himprovises with
      | intro hc hempty hroute =>
        exact h.tracks.improvise hc hempty hroute (hmem hstart hc hempty hroute hg)
  | rebuild hrebuilds => exact h.tracks.rebuilds hrebuilds
  | startup => exact tracks_bootstrap h.tracks _
  | reload => exact tracks_reloadAreas h.toSound h.toOrdered h.tracks.nodup h.tracks.writable _

theorem run (h : f.Charted astray) {events : List (Event Tables)}
    (hevents : Along LeavesAreas f events) (hstray : ∀ id ∈ f.improvisations events, astray id) :
    (f.run events).Charted astray := by
  induction events generalizing f with
  | nil => exact h
  | cons e events ih =>
    simp only [improvisations, List.forall_mem_append] at hstray
    exact ih (h.after hevents.1 hstray.1) hevents.2 hstray.2

end Charted

/-! ### Reloads -/

/-- An area has a quest route that its row does not have. -/
def Strayed (f : Fleet Tables) (id : Int) : Prop :=
  ∃ a, f.areas.find? id = some a ∧ a.questRoute ≠ [] ∧
    ∃ r ∈ f.store.areas, r.id = id ∧ lenientColumn r.questRoute = []

namespace Charted

theorem astray_of_strayed (h : f.Charted astray) {id : Int} (hid : f.Strayed id) : astray id := by
  obtain ⟨a, ha, hne, r, hr, rfl, hempty⟩ := hid
  rcases (h.tracks.follows r hr a.chart (Areas.chart?_of_find? ha)).2 with hlen | ⟨hstray, -⟩
  · have hzero : a.questRoute.length = 0 :=
      hlen.trans (List.length_eq_zero_iff.mpr hempty)
    exact absurd (List.length_eq_zero_iff.mp hzero) hne
  · exact hstray

theorem mem_ids_iff (h : f.Charted astray) {id : Int} :
    id ∈ f.areas.ids ↔ id ∈ f.store.areas.map (·.id) := by
  rw [← Areas.isSome_chart?_iff]
  exact h.tracks.charted id

/-- A reload reports the areas with a coordinate that is not a number, and no other. -/
theorem changesOf_eq (h : f.Charted astray) :
    ∃ changed, changesOf f.areas f.store.areas = ⟨[], changed, []⟩ ∧
      ∀ id, id ∈ changed ↔ ∃ r ∈ f.store.areas, r.id = id ∧ r.hasNaN := by
  have hreloaded := reloaded_reloadAreas h.toSound h.toOrdered h.tracks.nodup 0
  generalize changesOf f.areas f.store.areas = changes at hreloaded ⊢
  obtain ⟨added, changed, removed⟩ := changes
  have hadded : added = [] := by
    rw [List.eq_nil_iff_forall_not_mem]
    intro id hid
    obtain ⟨hin, hout⟩ := (hreloaded.added id).mp hid
    exact hout (h.mem_ids_iff.mpr ((hreloaded.ids id).mp hin))
  have hremoved : removed = [] := by
    rw [List.eq_nil_iff_forall_not_mem]
    intro id hid
    obtain ⟨hin, hout⟩ := (hreloaded.removed id).mp hid
    exact hout ((hreloaded.ids id).mpr (h.mem_ids_iff.mp hin))
  refine ⟨changed, ?_, fun id => ?_⟩
  · rw [hadded, hremoved]
  · rw [hreloaded.changed]
    refine exists_congr fun r => and_congr_right fun hr => and_congr_right fun hid => ?_
    subst hid
    obtain ⟨a, ha⟩ := Option.isSome_iff_exists.mp
      (Areas.isSome_find?_iff.mpr (h.mem_ids_iff.mpr (List.mem_map_of_mem hr)))
    have hdiffers := (h.tracks.follows r hr a.chart (Areas.chart?_of_find? ha)).1.differs_eq
    constructor
    · rintro ⟨b, hb, hbne⟩
      rw [ha] at hb
      cases hb
      exact hdiffers.symm.trans hbne
    · exact fun hnan => ⟨a, ha, hdiffers.trans hnan⟩

/-- What a reload makes of one area. -/
theorem find?_reloadAreas (h : f.Charted astray) (now : Instant) {id : Int} {a : Area}
    (ha : f.areas.find? id = some a) :
    ∃ b, (f.reloadAreas now).2.areas.find? id = some b ∧
      (f.Strayed id → b.questRoute = [] ∧ b.pass = none) ∧
      (¬ f.Strayed id → b.questRoute.length = a.questRoute.length ∧
        ∀ step < a.questRoute.length, a.pass = some step → b.pass = some step) := by
  have hreloaded := reloaded_reloadAreas h.toSound h.toOrdered h.tracks.nodup now
  have hid : id ∈ f.store.areas.map (·.id) :=
    h.mem_ids_iff.mp (Areas.isSome_find?_iff.mp (Option.isSome_of_eq_some ha))
  obtain ⟨r, hr, rfl⟩ := List.mem_map.mp hid
  obtain ⟨b, hb, hcontinues⟩ := hreloaded.continues r hr a ha
  obtain ⟨b', hb', hreads⟩ := hreloaded.reads r hr
  rw [hb] at hb'
  cases hb'
  have hlength : b.questRoute.length = (Definition.lenient r).questRoute.length :=
    hreads.questRoute.length_eq
  refine ⟨b, hb, fun hstrayed => ?_, fun hnot => ?_⟩
  · obtain ⟨a', ha', hne, s, hs, hid, hempty⟩ := hstrayed
    rw [ha] at ha'
    cases ha'
    have hsame : s = r := Keyed.eq_of_key (k := AreaRecord.id) h.tracks.nodup hs hr hid
    subst hsame
    have hnone : (Definition.lenient s).questRoute = [] := hempty
    rw [hnone] at hlength hcontinues
    exact ⟨List.length_eq_zero_iff.mp hlength, hcontinues.pass_eq_none hne⟩
  · have hsteps : a.questRoute.length = (Definition.lenient r).questRoute.length := by
      rcases (h.tracks.follows r hr a.chart (Areas.chart?_of_find? ha)).2 with hlen | hstray
      · exact hlen
      · exact absurd ⟨a, ha, hstray.2.1, r, hr, rfl, hstray.2.2⟩ hnot
    exact ⟨hlength.trans hsteps.symm,
      fun step hstep hrunning => hcontinues.pass_eq_some hrunning (hsteps ▸ hstep)⟩

end Charted

/-- A load of the whole table: a reload, or a startup that reads every row and finds no area without
one. -/
def LoadsAreas (f : Fleet Tables) : Event Tables → Prop
  | .perform .bootstrap _ now => (f.bootstrap now).1.toOption.isSome ∧
      ∀ id ∈ f.areas.ids, id ∈ f.store.areas.map (·.id)
  | .perform .reloadAreas _ _ => True
  | _ => False

theorem charted_after_load (hf : f.Sound) (ho : f.Ordered) (hids : (f.store.areas.map (·.id)).Nodup)
    (hw : f.store.readOnly = false) {e : Event Tables} (he : f.LoadsAreas e) :
    (f.after e).Charted astray := by
  refine ⟨hf.after e, ho.after hf e, ?_⟩
  cases e with
  | edit store => exact he.elim
  | perform op services now =>
    cases op with
    | bootstrap =>
      obtain ⟨hok, hareas⟩ := he
      cases hcounts : (f.bootstrap now).1 with
      | error e =>
        rw [hcounts] at hok
        cases hok
      | ok counts => exact tracks_of_startup hids hw hareas hcounts
    | reloadAreas => exact tracks_reloadAreas hf ho hids hw now
    | _ => exact he.elim

/-- After a load of a table and any run in which nobody edits its rows, a reload adds and removes no
area, and reports those with a coordinate that is not a number.  It takes the quest route away and
ends the pass in the areas that have strayed; in all others the quest route keeps its length and a
pass goes on.  Only areas that a start of quest scanning gave a quest route have strayed. -/
theorem run_reload_unedited (settings : Settings) (store : Tables)
    (before events : List (Event Tables)) {load : Event Tables} (now : Instant)
    (hids : (((Fleet.new settings store).run before).store.areas.map (·.id)).Nodup)
    (hwrites : ((Fleet.new settings store).run before).store.readOnly = false)
    (hload : ((Fleet.new settings store).run before).LoadsAreas load)
    (hevents : Along LeavesAreas (((Fleet.new settings store).run before).after load) events) :
    let start := ((Fleet.new settings store).run before).after load
    let f := start.run events
    (∃ changed, (f.reloadAreas now).1 = .ok ⟨[], changed, []⟩ ∧
      ∀ id, id ∈ changed ↔ ∃ r ∈ f.store.areas, r.id = id ∧ r.hasNaN) ∧
    (∀ id a, f.areas.find? id = some a →
      ∃ b, (f.reloadAreas now).2.areas.find? id = some b ∧
        (f.Strayed id → b.questRoute = [] ∧ b.pass = none) ∧
        (¬ f.Strayed id → b.questRoute.length = a.questRoute.length ∧
          ∀ step < a.questRoute.length, a.pass = some step → b.pass = some step)) ∧
    ∀ id, f.Strayed id → id ∈ start.improvisations events := by
  intro start f
  have hsound := (sound_new settings store).run before
  have hordered := (ordered_new settings store).run (sound_new settings store) before
  have hstart : start.Charted (· ∈ start.improvisations events) :=
    charted_after_load hsound hordered hids hwrites hload
  have hcharted : f.Charted (· ∈ start.improvisations events) := hstart.run hevents fun _ h => h
  obtain ⟨changed, hchanges, hmem⟩ := hcharted.changesOf_eq
  refine ⟨⟨changed, ?_, hmem⟩, fun id a ha => hcharted.find?_reloadAreas now ha,
    fun id => hcharted.astray_of_strayed⟩
  rw [← hchanges]
  rfl

/-- An area with a fence and without a quest route. -/
def fencedStore : Tables :=
  { Tables.empty with areas := [{ (default : AreaRecord) with
      id := 1, pokemonRoute := some "1 1,2 2", fence := some "0 0,0 1,1 1" }] }

/-- A calculator that always finds the same way. -/
def planner : Services :=
  { Services.none with calculate? := some fun _ _ => .ok [⟨3, 3⟩, ⟨4, 4⟩] }

/-- A rebuild and a start of quest scanning after a startup. -/
theorem run_reload_unedited_rebuilt :
    let start := (Fleet.new smallSettings fencedStore).after (.perform .bootstrap .none 0)
    let events : List (Event Tables) :=
      [.perform (.rebuildQuestRoute 1) planner 0, .perform (.startQuesting 1) planner 0]
    let f := start.run events
    (∃ changed, (f.reloadAreas 1).1 = .ok ⟨[], changed, []⟩ ∧
      ∀ id, id ∈ changed ↔ ∃ r ∈ f.store.areas, r.id = id ∧ r.hasNaN) ∧
    (∀ id a, f.areas.find? id = some a →
      ∃ b, (f.reloadAreas 1).2.areas.find? id = some b ∧
        (f.Strayed id → b.questRoute = [] ∧ b.pass = none) ∧
        (¬ f.Strayed id → b.questRoute.length = a.questRoute.length ∧
          ∀ step < a.questRoute.length, a.pass = some step → b.pass = some step)) ∧
    ∀ id, f.Strayed id → id ∈ start.improvisations events :=
  run_reload_unedited smallSettings fencedStore [] _ 1 (by decide) rfl
    ⟨by decide +kernel, by decide⟩ ⟨trivial, trivial, trivial⟩

/-- A start of quest scanning that has to make its route: a reload of the same table takes it away
and ends the pass. -/
theorem run_reload_unedited_improvised :
    let start := (Fleet.new smallSettings fencedStore).after (.perform .bootstrap .none 0)
    let f := start.run [.perform (.startQuesting 1) planner 0]
    f.store.areas = fencedStore.areas ∧
      (f.areas.find? 1).map (fun a => (a.questRoute.length, a.pass)) = some (2, some 0) ∧
      ((f.reloadAreas 1).2.areas.find? 1).map (fun a => (a.questRoute.length, a.pass)) =
        some (0, none) := by
  decide +kernel

end Fleet

end ScanFleet
