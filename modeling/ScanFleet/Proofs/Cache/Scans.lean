import ScanFleet.Cache.Scan
import ScanFleet.Proofs.Cache.Storings

/-! The tables of an area under any use of them.  The history of a pokestop is shared by all who
looked it up: each holds a handle, and a change through one handle is seen through all copies of
it.  Here a handle is a number, the histories stand apart from the table of handles, and `view` puts
each history in the place of its handle. -/

namespace ScanFleet

namespace Expiring

variable {κ ν μ : Type}

/-- The table with each value replaced by its image. -/
def mapValues (f : ν → μ) (c : Expiring κ ν) : Expiring κ μ :=
  ⟨c.ttl, c.entries.map fun e => ⟨e.key, f e.value, e.expires⟩⟩

theorem mapValues_congr {f g : ν → μ} {c : Expiring κ ν}
    (h : ∀ e ∈ c.entries, f e.value = g e.value) : c.mapValues f = c.mapValues g :=
  congrArg (Expiring.mk c.ttl) (List.map_congr_left fun e he => by rw [h e he])

theorem mapValues_purge (f : ν → μ) (c : Expiring κ ν) (now : Instant) :
    (c.purge now).mapValues f = (c.mapValues f).purge now := by
  unfold mapValues purge
  rw [List.filter_map]
  rfl

variable [DecidableEq κ]

theorem find?_mapValues (f : ν → μ) (c : Expiring κ ν) (key : κ) :
    (c.mapValues f).find? key = (c.find? key).map fun e => ⟨e.key, f e.value, e.expires⟩ := by
  unfold mapValues Expiring.find?
  rw [List.find?_map]
  rfl

theorem mapValues_insert (f : ν → μ) (c : Expiring κ ν) (key : κ) (value : ν) (now : Instant) :
    (c.insert key value now).mapValues f = (c.mapValues f).insert key (f value) now := by
  unfold mapValues Expiring.insert erase
  rw [List.filter_map]
  rfl

end Expiring

open Expiring

/-- An operation on the tables of an area, or none. -/
inductive ScanCaches.Step (c : ScanCaches) (now : Instant) : ScanCaches → Prop where
  | none : c.Step now c
  | look (stop : String) : c.Step now (c.pokestop stop now).2
  | update (stop : String) (f : PokestopScan → PokestopScan) : c.Step now (c.updatePokestop stop f)
  | seen (key : EncounterKey) : c.Step now (c.encounterSeen key now).2
  | record (key : EncounterKey) : c.Step now (c.recordEncounter key now).2
  | purge : c.Step now (c.purge now).2
  | clear : c.Step now c.clearPokestops

/-- A use of the tables of an area.  A history is changed through a handle. -/
inductive CacheUse where
  | look (stop : String)
  | change (handle : Nat) (f : PokestopScan → PokestopScan)
  | seen (key : EncounterKey)
  | record (key : EncounterKey)
  | purge
  | clearPokestops

/-- The tables of an area whose histories stand behind handles.  The handle of a history is its
place among all that were ever made. -/
structure SharedCaches where
  handles : Expiring String Nat
  histories : List PokestopScan
  encounters : Expiring EncounterKey Unit

namespace SharedCaches

def empty : SharedCaches := ⟨.empty pokestopLife, [], .empty encounterLife⟩

def history (s : SharedCaches) (handle : Nat) : PokestopScan :=
  s.histories.getD handle .never

theorem history_concat (s : SharedCaches) (handles : Expiring String Nat) :
    history { s with handles, histories := s.histories ++ [.never] } = s.history := by
  funext handle
  unfold history
  rcases Nat.lt_trichotomy handle s.histories.length with hlt | rfl | hgt
  · simp [List.getElem?_append_left hlt]
  · simp
  · simp [List.getElem?_eq_none (Nat.le_of_lt hgt), List.getElem?_append_right (Nat.le_of_lt hgt),
      Nat.sub_ne_zero_of_lt hgt]

/-- The tables of the area, each history in the place of its handle. -/
def view (s : SharedCaches) : ScanCaches where
  pokestops := s.handles.mapValues s.history
  encounters := s.encounters

/-- The handle of a pokestop, whose history is made when there is none. -/
def pokestop (s : SharedCaches) (stop : String) (now : Instant) : Nat × SharedCaches :=
  let (handle, handles) := s.handles.getOrInsert stop s.histories.length now
  if handle < s.histories.length then (handle, { s with handles })
  else (handle, { s with handles, histories := s.histories ++ [.never] })

def use (s : SharedCaches) (now : Instant) : CacheUse → SharedCaches
  | .look stop => (s.pokestop stop now).2
  | .change handle f => { s with histories := s.histories.modify handle f }
  | .seen key => { s with encounters := (s.view.encounterSeen key now).2.encounters }
  | .record key => { s with encounters := (s.view.recordEncounter key now).2.encounters }
  | .purge =>
    { s with handles := s.handles.purge now, encounters := (s.view.purge now).2.encounters }
  | .clearPokestops => { s with handles := s.handles.clear }

/-- The tables after the uses of a log. -/
def after (s : SharedCaches) (uses : List (Instant × CacheUse)) : SharedCaches :=
  uses.foldl (fun s u => s.use u.1 u.2) s

theorem after_append (s : SharedCaches) (uses more : List (Instant × CacheUse)) :
    s.after (uses ++ more) = (s.after uses).after more :=
  List.foldl_append

/-- The table has at most one entry for a pokestop, and no two entries share a handle. -/
structure WellShared (s : SharedCaches) : Prop where
  ttl : s.handles.ttl = pokestopLife
  distinct : s.handles.Distinct
  handles : (s.handles.entries.map (·.value)).Nodup
  made : ∀ e ∈ s.handles.entries, e.value < s.histories.length

/-- A look gives out the handle of the live entry, or makes a history and an entry with its
handle. -/
theorem pokestop_cases {s : SharedCaches} (h : s.WellShared) (stop : String) (now : Instant) :
    (∃ e, s.handles.find? stop = some e ∧ now < e.expires ∧ s.pokestop stop now = (e.value, s)) ∨
    (∀ e, s.handles.find? stop = some e → e.expires ≤ now) ∧
      s.pokestop stop now = (s.histories.length,
        { s with handles := s.handles.insert stop s.histories.length now,
                 histories := s.histories ++ [.never] }) := by
  unfold pokestop getOrInsert
  cases hfind : s.handles.find? stop with
  | none =>
    refine .inr ⟨(fun _ he => nomatch he), ?_⟩
    simp
  | some e =>
    by_cases hlt : now < e.expires
    · refine .inl ⟨e, rfl, hlt, ?_⟩
      have hmade := h.made e (List.mem_of_find?_eq_some hfind)
      simp [hlt, hmade]
    · refine .inr ⟨fun e' he' => ?_, ?_⟩
      · cases he'
        exact Int.not_lt.mp hlt
      · simp [if_neg hlt]

namespace WellShared

theorem empty : empty.WellShared :=
  ⟨rfl, List.nodup_nil, List.nodup_nil, fun _ he => absurd he List.not_mem_nil⟩

theorem filter {s : SharedCaches} (h : s.WellShared) (p : Entry String Nat → Bool)
    (encounters : Expiring EncounterKey Unit) :
    WellShared { s with
      handles := { s.handles with entries := s.handles.entries.filter p }, encounters } where
  ttl := h.ttl
  distinct := distinct_filter h.distinct p
  handles := h.handles.sublist (List.filter_sublist.map _)
  made e he := h.made e (List.mem_of_mem_filter he)

theorem use {s : SharedCaches} (h : s.WellShared) (now : Instant) (u : CacheUse) :
    (s.use now u).WellShared := by
  cases u with
  | seen | record => exact ⟨h.ttl, h.distinct, h.handles, h.made⟩
  | change handle f =>
    refine ⟨h.ttl, h.distinct, h.handles, fun e he => ?_⟩
    exact Nat.lt_of_lt_of_eq (h.made e he) (List.length_modify ..).symm
  | purge => exact h.filter _ _
  | clearPokestops =>
    exact ⟨h.ttl, List.nodup_nil, List.nodup_nil, fun _ he => absurd he List.not_mem_nil⟩
  | look stop =>
    show (s.pokestop stop now).2.WellShared
    rcases pokestop_cases h stop now with ⟨e, -, -, heq⟩ | ⟨-, heq⟩
    · rwa [heq]
    · rw [heq]
      refine ⟨h.ttl, distinct_insert h.distinct stop _ now, ?_, ?_⟩
      · refine List.nodup_cons.mpr ⟨fun hmem => ?_, h.handles.sublist (List.filter_sublist.map _)⟩
        obtain ⟨e, he, hvalue⟩ := List.mem_map.mp hmem
        have hmade := h.made e (List.mem_of_mem_filter he)
        exact absurd (hvalue ▸ hmade) (Nat.lt_irrefl _)
      · rintro e he
        rw [List.length_append]
        rcases List.mem_cons.mp he with rfl | he
        · exact Nat.lt_succ_self _
        · exact Nat.lt_succ_of_lt (h.made e (List.mem_of_mem_filter he))

theorem after {s : SharedCaches} (h : s.WellShared) (uses : List (Instant × CacheUse)) :
    (s.after uses).WellShared := by
  induction uses generalizing s with
  | nil => exact h
  | cons u rest ih => exact ih (h.use u.1 u.2)

end WellShared

/-! ### What the area sees of the handles -/

/-- A look finds, in the tables of the area, the history behind the handle that it gives out. -/
theorem view_pokestop {s : SharedCaches} (h : s.WellShared) (stop : String) (now : Instant) :
    s.view.pokestop stop now =
      ((s.pokestop stop now).2.history (s.pokestop stop now).1, (s.pokestop stop now).2.view) := by
  rcases pokestop_cases h stop now with ⟨e, hfind, hlt, heq⟩ | ⟨hexp, heq⟩
  · have hhit : s.view.pokestops.getOrInsert stop .never now =
        (s.history e.value, s.view.pokestops) := by
      unfold getOrInsert view
      rw [find?_mapValues, hfind]
      exact if_pos hlt
    unfold ScanCaches.pokestop
    rw [hhit, heq]
  · have hmiss : s.view.pokestops.getOrInsert stop .never now =
        (.never, s.view.pokestops.insert stop .never now) := by
      unfold getOrInsert view
      rw [find?_mapValues]
      cases hfind : s.handles.find? stop with
      | none => rfl
      | some e => exact if_neg (Int.not_lt.mpr (hexp e hfind))
    have hnew : s.history s.histories.length = .never := by simp [history]
    unfold ScanCaches.pokestop
    rw [hmiss, heq]
    simp only [view, history_concat, mapValues_insert, hnew]

/-- A change through a handle that the table still holds is a change of that pokestop's history in
place; through any other handle it is none. -/
theorem view_change {s : SharedCaches} (h : s.WellShared) (handle : Nat)
    (f : PokestopScan → PokestopScan) (now : Instant) :
    (∃ e ∈ s.handles.entries, e.value = handle ∧
      (s.use now (.change handle f)).view = s.view.updatePokestop e.key f) ∨
    (∀ e ∈ s.handles.entries, e.value ≠ handle) ∧
      (s.use now (.change handle f)).view = s.view := by
  have hhistory : ∀ e ∈ s.handles.entries, (s.use now (.change handle f)).history e.value =
      if e.value = handle then f (s.history e.value) else s.history e.value := by
    intro e he
    have hmade := h.made e he
    simp only [use, history, List.getD_eq_getElem?_getD, List.getElem?_modify,
      List.getElem?_eq_getElem hmade]
    by_cases heq : e.value = handle
    · simp [heq]
    · simp [heq, Ne.symm heq]
  by_cases hmem : ∃ e ∈ s.handles.entries, e.value = handle
  · obtain ⟨e, he, rfl⟩ := hmem
    refine .inl ⟨e, he, rfl, ?_⟩
    unfold view ScanCaches.updatePokestop mapValues Expiring.modify
    simp only [List.map_map, ScanCaches.mk.injEq, Expiring.mk.injEq]
    refine ⟨⟨rfl, List.map_congr_left fun x hx => ?_⟩, rfl⟩
    rw [hhistory x hx]
    by_cases heq : x.key = e.key
    · obtain rfl := Keyed.eq_of_key h.distinct hx he heq
      simp
    · have hvalue : x.value ≠ e.value := fun hv =>
        heq (congrArg Entry.key (Keyed.eq_of_key h.handles hx he hv))
      simp [heq, hvalue]
  · have hnone : ∀ e ∈ s.handles.entries, e.value ≠ handle := fun e he hv => hmem ⟨e, he, hv⟩
    refine .inr ⟨hnone, ?_⟩
    refine congrArg (ScanCaches.mk · s.encounters) (mapValues_congr fun e he => ?_)
    rw [hhistory e he, if_neg (hnone e he)]

theorem view_purge (s : SharedCaches) (now : Instant) :
    (s.use now .purge).view = (s.view.purge now).2 := by
  unfold use view ScanCaches.purge
  rw [mapValues_purge]
  rfl

/-- Each use of the handles is one operation on the tables of the area, or none. -/
theorem step_view {s : SharedCaches} (h : s.WellShared) (now : Instant) (u : CacheUse) :
    s.view.Step now (s.use now u).view := by
  cases u with
  | seen key => exact .seen key
  | record key =>
    have hstops : (s.view.recordEncounter key now).2.pokestops = s.view.pokestops := by
      unfold ScanCaches.recordEncounter
      dsimp only
      split <;> rfl
    have hview : (s.view.recordEncounter key now).2 = (s.use now (.record key)).view :=
      congrArg (ScanCaches.mk · _) hstops
    exact hview ▸ .record key
  | clearPokestops => exact .clear
  | purge => exact s.view_purge now ▸ .purge
  | look stop =>
    have hview : (s.view.pokestop stop now).2 = (s.use now (.look stop)).view :=
      congrArg Prod.snd (view_pokestop h stop now)
    exact hview ▸ .look stop
  | change handle f =>
    rcases view_change h handle f now with ⟨e, -, -, heq⟩ | ⟨-, heq⟩
    · exact heq ▸ .update e.key f
    · exact heq ▸ .none

/-! ### Handles -/

theorem length_use (s : SharedCaches) (now : Instant) (u : CacheUse) :
    s.histories.length ≤ (s.use now u).histories.length := by
  cases u with
  | seen | record | purge | clearPokestops => exact Nat.le_refl _
  | change handle f => exact Nat.le_of_eq (List.length_modify ..).symm
  | look stop =>
    simp only [use, pokestop]
    split
    · exact Nat.le_refl _
    · simp

theorem length_after (s : SharedCaches) (uses : List (Instant × CacheUse)) :
    s.histories.length ≤ (s.after uses).histories.length := by
  induction uses generalizing s with
  | nil => exact Nat.le_refl _
  | cons u rest ih => exact Nat.le_trans (s.length_use u.1 u.2) (ih _)

/-- An entry after a use was there before, or it is the one that a look has made. -/
theorem mem_use {s : SharedCaches} (h : s.WellShared) {now : Instant} {u : CacheUse}
    {e : Entry String Nat} (he : e ∈ (s.use now u).handles.entries) :
    e ∈ s.handles.entries ∧ u ≠ .clearPokestops ∨ e.value = s.histories.length := by
  cases u with
  | seen | record | change => exact .inl ⟨he, nofun⟩
  | purge => exact .inl ⟨List.mem_of_mem_filter he, nofun⟩
  | clearPokestops => exact absurd he List.not_mem_nil
  | look stop =>
    change e ∈ (s.pokestop stop now).2.handles.entries at he
    rcases pokestop_cases h stop now with ⟨_, -, -, heq⟩ | ⟨-, heq⟩
    · rw [heq] at he
      exact .inl ⟨he, nofun⟩
    · rw [heq] at he
      rcases List.mem_cons.mp he with rfl | he
      · exact .inr rfl
      · exact .inl ⟨List.mem_of_mem_filter he, nofun⟩

/-- An entry with a handle of old was there all along. -/
theorem mem_after {s : SharedCaches} (h : s.WellShared) {uses : List (Instant × CacheUse)}
    {e : Entry String Nat} (he : e ∈ (s.after uses).handles.entries)
    (hold : e.value < s.histories.length) :
    e ∈ s.handles.entries ∧ ∀ u ∈ uses, u.2 ≠ .clearPokestops := by
  induction uses generalizing s with
  | nil => exact ⟨he, fun _ hu => absurd hu List.not_mem_nil⟩
  | cons u rest ih =>
    obtain ⟨hmem, hrest⟩ := ih (h.use u.1 u.2) he
      (Nat.lt_of_lt_of_le hold (s.length_use u.1 u.2))
    rcases mem_use h hmem with ⟨hmem, hu⟩ | heq
    · exact ⟨hmem, List.forall_mem_cons.mpr ⟨hu, hrest⟩⟩
    · exact absurd (heq ▸ hold) (Nat.lt_irrefl _)

/-- A live entry stays in place but for a clear. -/
theorem find?_use {s : SharedCaches} (h : s.WellShared) {now : Instant} {u : CacheUse}
    {stop : String} {e : Entry String Nat} (hfind : s.handles.find? stop = some e)
    (hlt : now < e.expires) (hu : u ≠ .clearPokestops) :
    (s.use now u).handles.find? stop = some e := by
  cases u with
  | seen | record | change => exact hfind
  | clearPokestops => exact absurd rfl hu
  | purge =>
    refine (find?_purge h.distinct now stop).trans ?_
    rw [hfind]
    exact Option.filter_some_pos (by simpa using hlt)
  | look other =>
    show (s.pokestop other now).2.handles.find? stop = some e
    rcases pokestop_cases h other now with ⟨_, -, -, heq⟩ | ⟨hexp, heq⟩
    · rwa [heq]
    · rw [heq]
      refine (find?_insert s.handles other stop _ now).trans ((if_neg ?_).trans hfind)
      rintro rfl
      exact absurd hlt (Int.not_lt.mpr (hexp e hfind))

theorem find?_after {s : SharedCaches} (h : s.WellShared) {uses : List (Instant × CacheUse)}
    {stop : String} {e : Entry String Nat} (hfind : s.handles.find? stop = some e)
    (huses : ∀ u ∈ uses, u.1 < e.expires ∧ u.2 ≠ .clearPokestops) :
    (s.after uses).handles.find? stop = some e := by
  induction uses generalizing s with
  | nil => exact hfind
  | cons u rest ih =>
    obtain ⟨⟨hlt, hu⟩, hrest⟩ := List.forall_mem_cons.mp huses
    exact ih (h.use u.1 u.2) (find?_use h hfind hlt hu) hrest

/-- A look gives out the handle that an earlier look made, until it is six hours old or the
table has been cleared. -/
theorem pokestop_eq_iff {s : SharedCaches} (h : s.WellShared) {stop : String} {t now : Instant}
    {rest : List (Instant × CacheUse)} (htimes : ∀ u ∈ rest, u.1 ≤ now)
    (hmade : (s.pokestop stop t).1 = s.histories.length) :
    (((s.use t (.look stop)).after rest).pokestop stop now).1 = (s.pokestop stop t).1 ↔
      (∀ u ∈ rest, u.2 ≠ .clearPokestops) ∧ now < t + pokestopLife := by
  have hmiss : s.pokestop stop t = (s.histories.length,
      { s with handles := s.handles.insert stop s.histories.length t,
               histories := s.histories ++ [.never] }) := by
    rcases pokestop_cases h stop t with ⟨e, hfind, -, heq⟩ | ⟨-, heq⟩
    · rw [heq] at hmade
      have hlt := h.made e (List.mem_of_find?_eq_some hfind)
      exact absurd (hmade ▸ hlt) (Nat.lt_irrefl _)
    · exact heq
  have hnext := h.use t (.look stop)
  have hall := hnext.after rest
  have hlength : s.histories.length < (s.use t (.look stop)).histories.length := by
    simp [use, hmiss]
  rw [hmade]
  constructor
  · intro heq
    obtain ⟨e, hfind, hlt, hlook⟩ | ⟨-, hlook⟩ := pokestop_cases hall stop now
    · rw [hlook] at heq
      have hlt := Nat.lt_of_le_of_lt (Nat.le_of_eq heq) hlength
      obtain ⟨hmem, hclear⟩ := mem_after hnext (List.mem_of_find?_eq_some hfind) hlt
      refine ⟨hclear, ?_⟩
      simp only [use, hmiss] at hmem
      rcases List.mem_cons.mp hmem with rfl | hold
      · rwa [← h.ttl]
      · have hlt := h.made e (List.mem_of_mem_filter hold)
        exact absurd (heq ▸ hlt) (Nat.lt_irrefl _)
    · rw [hlook] at heq
      have hle := length_after (s.use t (.look stop)) rest
      exact absurd (heq ▸ hle) (Nat.not_le_of_lt hlength)
  · rintro ⟨hclear, hlt⟩
    have hfind : (s.use t (.look stop)).handles.find? stop =
        some ⟨stop, s.histories.length, t + pokestopLife⟩ := by
      simp only [use, hmiss]
      rw [find?_insert, if_pos rfl, h.ttl]
    have hlast := find?_after hnext hfind fun u hu =>
      ⟨Int.lt_of_le_of_lt (htimes u hu) hlt, hclear u hu⟩
    obtain ⟨e, hfind', -, hlook⟩ | ⟨hexp, -⟩ := pokestop_cases hall stop now
    · rw [hlast] at hfind'
      cases hfind'
      rw [hlook]
    · exact absurd hlt (Int.not_lt.mpr (hexp _ hlast))

/-! ### Encounters -/

/-- What a use does to the table of encounters. -/
def encounterAccess : CacheUse → Option (Access EncounterKey Unit)
  | .seen key => some (.contains key)
  | .record key => some (.getOrInsert key ())
  | .purge => some .purge
  | .look _ | .change _ _ | .clearPokestops => none

theorem encounterAccess_ne_insert {u : CacheUse} {a : Access EncounterKey Unit}
    (h : encounterAccess u = some a) {key : EncounterKey} {value : Unit} :
    a ≠ .insert key value := by
  cases u <;> cases h <;> nofun

theorem encounterAccess_ne_clear {u : CacheUse} {a : Access EncounterKey Unit}
    (h : encounterAccess u = some a) : a ≠ .clear := by
  cases u <;> cases h <;> nofun

theorem encounterAccess_eq_getOrInsert {u : CacheUse} {key : EncounterKey} {value : Unit}
    (h : encounterAccess u = some (.getOrInsert key value)) : u = .record key := by
  cases u <;> cases h
  rfl

def encounterLog (uses : List (Instant × CacheUse)) : List (Instant × Access EncounterKey Unit) :=
  uses.filterMap fun u => (encounterAccess u.2).map (u.1, ·)

theorem encounterLog_cons (u : Instant × CacheUse) (rest : List (Instant × CacheUse)) :
    encounterLog (u :: rest) =
      ((encounterAccess u.2).map (u.1, ·)).toList ++ encounterLog rest := by
  unfold encounterLog
  cases h : encounterAccess u.2 with
  | none => rw [List.filterMap_cons_none (by rw [h]; rfl)]; rfl
  | some a => rw [List.filterMap_cons_some (by rw [h]; rfl)]; rfl

theorem encounterLog_append (uses more : List (Instant × CacheUse)) :
    encounterLog (uses ++ more) = encounterLog uses ++ encounterLog more :=
  List.filterMap_append

/-- An access of the log stems from a use. -/
theorem split_of_encounterLog {uses : List (Instant × CacheUse)}
    {log later : List (Instant × Access EncounterKey Unit)}
    {e : Instant × Access EncounterKey Unit} (h : encounterLog uses = log ++ e :: later) :
    ∃ before u rest, uses = before ++ u :: rest ∧ encounterLog before = log ∧ u.1 = e.1 ∧
      encounterAccess u.2 = some e.2 := by
  obtain ⟨early, late, rfl, rfl, hlate⟩ := List.filterMap_eq_append_iff.mp h
  obtain ⟨idle, u, rest, rfl, hidle, hacc, -⟩ := List.filterMap_eq_cons_iff.mp hlate
  obtain ⟨a, ha, rfl⟩ := Option.map_eq_some_iff.mp hacc
  refine ⟨early ++ idle, u, rest, (List.append_assoc ..).symm, ?_, rfl, ha⟩
  have hnone : encounterLog idle = [] := List.filterMap_eq_nil_iff.mpr hidle
  rw [encounterLog_append, hnone, List.append_nil]
  rfl

theorem chronological_encounterLog {uses : List (Instant × CacheUse)} {now : Instant}
    (h : Chronological uses now) : Chronological (encounterLog uses) now := by
  refine h.of_times ?_
  clear h
  induction uses with
  | nil => exact List.Sublist.refl _
  | cons u rest ih =>
    rw [encounterLog_cons]
    cases encounterAccess u.2 with
    | none => exact ih.cons u.1
    | some a => exact ih.cons_cons u.1

end SharedCaches

/-- A record of an encounter is a look-up that stores what it does not find. -/
theorem ScanCaches.recordEncounter_eq (c : ScanCaches) (key : EncounterKey) (now : Instant) :
    (c.recordEncounter key now).1 = !(c.encounters.contains key now).1 ∧
      (c.recordEncounter key now).2.encounters = (c.encounters.getOrInsert key () now).2 := by
  unfold recordEncounter encounterSeen Expiring.contains Expiring.get Expiring.getOrInsert
  cases c.encounters.find? key with
  | none => exact ⟨rfl, rfl⟩
  | some e =>
    by_cases hlt : now < e.expires
    · simp [hlt]
    · simp only [if_neg hlt]
      refine ⟨rfl, ?_⟩
      simp [Expiring.insert, Expiring.erase, List.filter_filter]

namespace SharedCaches

theorem encounters_after (s : SharedCaches) (uses : List (Instant × CacheUse)) :
    (s.after uses).encounters = s.encounters.after (encounterLog uses) := by
  induction uses generalizing s with
  | nil => rfl
  | cons u rest ih =>
    have hrest : (s.after (u :: rest)).encounters =
        (s.use u.1 u.2).encounters.after (encounterLog rest) := ih _
    rw [hrest, encounterLog_cons, Expiring.after_append]
    congr 1
    obtain ⟨t, u⟩ := u
    cases u with
    | seen | purge | clearPokestops | change => rfl
    | record key => exact (s.view.recordEncounter_eq key t).2
    | look stop =>
      show (s.pokestop stop t).2.encounters = s.encounters
      unfold pokestop
      dsimp only
      split <;> rfl

/-- An encounter is accepted when its key has no storing that is alive. -/
theorem recordEncounter_fst {uses : List (Instant × CacheUse)} {now : Instant}
    (h : Chronological uses now) (key : EncounterKey) :
    ((empty.after uses).view.recordEncounter key now).1 = true ↔
      alive encounterLife now (lastStored encounterLife (encounterLog uses) key) = none := by
  have htracks := tracks_after encounterLife (chronological_encounterLog h)
  rw [((empty.after uses).view.recordEncounter_eq key now).1]
  show (!((empty.after uses).encounters.contains key now).1) = true ↔ _
  rw [encounters_after, show empty.encounters = Expiring.empty encounterLife from rfl,
    htracks.contains_fst, ttl_after]
  simp [Expiring.empty]

/-- An encounter is accepted unless it was accepted less than an hour before. -/
theorem recordEncounter_iff {uses : List (Instant × CacheUse)} {now : Instant}
    (h : Chronological uses now) (key : EncounterKey) :
    ((empty.after uses).view.recordEncounter key now).1 = true ↔
      ¬∃ before t rest, uses = before ++ (t, .record key) :: rest ∧
        ((empty.after before).view.recordEncounter key t).1 = true ∧
        now < t + encounterLife := by
  rw [recordEncounter_fst h, iff_not_comm, ← ne_eq, Option.ne_none_iff_exists']
  constructor
  · rintro ⟨before, t, rest, rfl, haccepted, hlt⟩
    rw [recordEncounter_fst h.prior] at haccepted
    refine ⟨(), alive_eq_some.mpr ⟨t, ?_, hlt⟩⟩
    have hlog : encounterLog (before ++ (t, .record key) :: rest) =
        (encounterLog before ++ [(t, .getOrInsert key ())]) ++ encounterLog rest := by
      rw [encounterLog_append, encounterLog_cons, List.append_assoc]
      rfl
    rw [hlog, lastStored_append, lastStored_concat]
    refine foldl_note_eq (note_of_stores (.inr ⟨rfl, haccepted⟩)) fun e he => ?_
    obtain ⟨u, hu, hacc⟩ := List.mem_filterMap.mp he
    obtain ⟨a, ha, rfl⟩ := Option.map_eq_some_iff.mp hacc
    have htime := h.le_now (List.mem_append_right _ (List.mem_cons_of_mem _ hu))
    refine ⟨Int.lt_of_le_of_lt htime hlt, ?_⟩
    exact ⟨encounterAccess_ne_clear ha, fun _ => encounterAccess_ne_insert ha⟩
  · rintro ⟨_, halive⟩
    obtain ⟨t, hlast, hlt⟩ := alive_eq_some.mp halive
    obtain ⟨log, e, later, hlog, htime, hstores, -⟩ := lastStored_eq_some_iff.mp hlast
    obtain ⟨before, u, rest, rfl, rfl, hu, hacc⟩ := split_of_encounterLog hlog
    obtain rfl : e.1 = t := htime
    obtain ⟨t, use⟩ := u
    obtain rfl : t = e.1 := hu
    rcases hstores with hinsert | ⟨hstore, hdead⟩
    · exact absurd hinsert (encounterAccess_ne_insert hacc)
    · obtain rfl := encounterAccess_eq_getOrInsert (hstore ▸ hacc)
      exact ⟨before, e.1, rest, rfl, (recordEncounter_fst h.prior key).mpr hdead, hlt⟩

end SharedCaches

/-- A table of expiring entries answers by the last storings of its keys, whatever it has dropped
on the way, and its answers are the same without the reads in between.  So an area accepts an
encounter unless it accepted the same one less than an hour before, and it gives out one handle
of a pokestop until six hours after the history was made or until a clear. -/
theorem lazy_expiry {κ ν : Type} [DecidableEq κ] (ttl : Span)
    (log : List (Instant × Access κ ν)) (uses : List (Instant × CacheUse)) (now : Instant)
    (hlog : Chronological log now) (huses : Chronological uses now) :
    ((Expiring.empty ttl).after log).AnswersBy ttl (lastStored ttl log) now ∧
    (∀ before e rest, log = before ++ e :: rest → e.2.isRead →
      lastStored ttl log = lastStored ttl (before ++ rest) ∧
      (((Expiring.empty ttl).replies log).eraseIdx before.length).map Reply.uncounted =
        ((Expiring.empty ttl).replies (before ++ rest)).map Reply.uncounted) ∧
    (∀ key, ((SharedCaches.empty.after uses).view.recordEncounter key now).1 = true ↔
      ¬∃ before t rest, uses = before ++ (t, .record key) :: rest ∧
        ((SharedCaches.empty.after before).view.recordEncounter key t).1 = true ∧
        now < t + encounterLife) ∧
    (∀ before t stop rest, uses = before ++ (t, .look stop) :: rest →
      let earlier := SharedCaches.empty.after before
      (earlier.pokestop stop t).1 = earlier.histories.length →
      (((SharedCaches.empty.after uses).pokestop stop now).1 = (earlier.pokestop stop t).1 ↔
        (∀ u ∈ rest, u.2 ≠ .clearPokestops) ∧ now < t + pokestopLife)) ∧
    ∀ stop, (SharedCaches.empty.after uses).view.pokestop stop now =
      (((SharedCaches.empty.after uses).pokestop stop now).2.history
          ((SharedCaches.empty.after uses).pokestop stop now).1,
        ((SharedCaches.empty.after uses).pokestop stop now).2.view) := by
  refine ⟨answersBy_after ttl hlog, ?_, SharedCaches.recordEncounter_iff huses, ?_, ?_⟩
  · rintro before e rest rfl hread
    exact ⟨lastStored_of_isRead ttl before rest hread, replies_eraseIdx ttl hlog hread⟩
  · rintro before t stop rest rfl earlier hmade
    have htimes : ∀ u ∈ rest, u.1 ≤ now := fun u hu =>
      huses.le_now (List.mem_append_right before (List.mem_cons_of_mem _ hu))
    rw [SharedCaches.after_append]
    exact SharedCaches.pokestop_eq_iff (SharedCaches.WellShared.empty.after before) htimes hmade
  · exact fun stop => SharedCaches.view_pokestop (SharedCaches.WellShared.empty.after uses) stop now

/-- A log of a table whose entries live for ten milliseconds.  What is stored first is found once,
the purge drops it, and the key is stored again. -/
def shortLivedLog : List (Instant × Access Nat String) :=
  [(0, .insert 1 "first"), (9, .getOrInsert 1 "second"), (11, .purge),
    (12, .getOrInsert 1 "third"), (18, .get 1)]

def oneStopUses : List (Instant × CacheUse) :=
  [(0, .look "stop"), (1, .record ⟨42, 25, false⟩), (5, .purge)]

theorem lazy_expiry_shortLived :
    Chronological shortLivedLog 20 ∧ Chronological oneStopUses 20 ∧
    ((Expiring.empty 10).after shortLivedLog).AnswersBy 10 (lastStored 10 shortLivedLog) 20 ∧
    lastStored 10 shortLivedLog 1 = some ⟨"third", 12⟩ ∧
    (((Expiring.empty 10).replies shortLivedLog).eraseIdx 2).map Reply.uncounted =
      ((Expiring.empty 10).replies (shortLivedLog.take 2 ++ shortLivedLog.drop 3)).map
        Reply.uncounted ∧
    ((SharedCaches.empty.after oneStopUses).view.recordEncounter ⟨42, 25, false⟩ 20).1 = false ∧
    ((SharedCaches.empty.after oneStopUses).pokestop "stop" 20).1 = 0 := by
  have hlog : Chronological shortLivedLog 20 := by decide
  have huses : Chronological oneStopUses 20 := by decide
  obtain ⟨hanswers, hreads, hencounter, hstop, -⟩ :=
    lazy_expiry 10 shortLivedLog oneStopUses 20 hlog huses
  refine ⟨hlog, huses, hanswers, by decide, ?_, ?_, ?_⟩
  · exact (hreads (shortLivedLog.take 2) (11, .purge) (shortLivedLog.drop 3) rfl rfl).2
  · refine Bool.eq_false_iff.mpr fun htrue => (hencounter _).mp htrue ?_
    exact ⟨[(0, .look "stop")], 1, [(5, .purge)], rfl, by decide, by decide⟩
  · have hclear : ∀ u ∈ oneStopUses.drop 1, u.2 ≠ .clearPokestops :=
      List.forall_mem_cons.mpr ⟨nofun, List.forall_mem_cons.mpr ⟨nofun, nofun⟩⟩
    exact (hstop [] 0 "stop" (oneStopUses.drop 1) rfl (by decide)).mpr ⟨hclear, by decide⟩

end ScanFleet
