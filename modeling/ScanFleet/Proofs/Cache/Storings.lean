import Mathlib.Data.List.Induction
import Mathlib.Data.List.InsertIdx
import ScanFleet.Cache.Expiring
import ScanFleet.Proofs.Keyed

/-! What a table of expiring entries answers, told from the log of its operations.  Of each key the
log tells the last storing since the table was cleared, and a look-up finds what was stored while
the storing is younger than the life of an entry.  The table drops entries at look-ups and at
purges; the log knows nothing of this, and the answers are the same. -/

namespace ScanFleet

/-- The times of a log never go back, and none of them lies after `now`. -/
def Chronological {α : Type} (log : List (Instant × α)) (now : Instant) : Prop :=
  (log.map (·.1) ++ [now]).Pairwise (· ≤ ·)

instance {α : Type} (log : List (Instant × α)) (now : Instant) :
    Decidable (Chronological log now) :=
  inferInstanceAs (Decidable (List.Pairwise _ _))

namespace Chronological

variable {α : Type} {log : List (Instant × α)} {now : Instant}

theorem le_now (h : Chronological log now) {e : Instant × α} (he : e ∈ log) : e.1 ≤ now :=
  (List.pairwise_append.mp h).2.2 _ (List.mem_map_of_mem he) _ List.mem_cons_self

theorem prior {rest : List (Instant × α)} {e : Instant × α}
    (h : Chronological (log ++ e :: rest) now) : Chronological log e.1 := by
  unfold Chronological at h
  rw [List.map_append, List.map_cons, List.append_assoc] at h
  exact List.Pairwise.sublist ((List.nil_sublist _).cons_cons e.1 |>.append_left _) h

theorem of_times {β : Type} {part : List (Instant × β)} (h : Chronological log now)
    (hsub : (part.map (·.1)).Sublist (log.map (·.1))) : Chronological part now :=
  List.Pairwise.sublist (hsub.append (List.Sublist.refl _)) h

theorem sublist {part : List (Instant × α)} (h : Chronological log now)
    (hsub : part.Sublist log) : Chronological part now :=
  h.of_times (hsub.map _)

end Chronological

namespace Expiring

variable {κ ν : Type}

/-- An operation on a table. -/
inductive Access (κ ν : Type) where
  | insert (key : κ) (value : ν)
  | get (key : κ)
  | contains (key : κ)
  | getOrInsert (key : κ) (value : ν)
  | purge
  | clear
deriving DecidableEq, Repr

/-- Whether an operation stores nothing and clears nothing. -/
def Access.isRead : Access κ ν → Bool
  | .get _ | .contains _ | .purge => true
  | .insert _ _ | .getOrInsert _ _ | .clear => false

inductive Reply (ν : Type) where
  | done
  | found (value : Option ν)
  | present (answer : Bool)
  | kept (value : ν)
  | dropped (count : Nat)
deriving DecidableEq, Repr

/-- The reply without the number of entries in it. -/
def Reply.uncounted : Reply ν → Reply ν
  | .dropped _ => .dropped 0
  | reply => reply

/-- A storing of a key: what was stored, and when. -/
structure Storing (ν : Type) where
  value : ν
  time : Instant
deriving DecidableEq, Repr

/-- What a look-up at `now` should find, given the last storing of its key. -/
def alive (ttl : Span) (now : Instant) : Option (Storing ν) → Option ν
  | some s => if now < s.time + ttl then some s.value else none
  | none => none

theorem alive_eq_some {ttl : Span} {now : Instant} {last : Option (Storing ν)} {value : ν} :
    alive ttl now last = some value ↔ ∃ t, last = some ⟨value, t⟩ ∧ now < t + ttl := by
  cases last with
  | none => simp [alive]
  | some s =>
    obtain ⟨v, t⟩ := s
    simp only [alive, Option.ite_none_right_eq_some, Option.some.injEq, Storing.mk.injEq]
    constructor
    · rintro ⟨hlt, rfl⟩
      exact ⟨t, ⟨rfl, rfl⟩, hlt⟩
    · rintro ⟨_, ⟨rfl, rfl⟩, hlt⟩
      exact ⟨hlt, rfl⟩

variable [DecidableEq κ]

/-- What an operation replies, and the table after it. -/
def access (c : Expiring κ ν) (now : Instant) : Access κ ν → Reply ν × Expiring κ ν
  | .insert key value => (.done, c.insert key value now)
  | .get key => (.found (c.get key now).1, (c.get key now).2)
  | .contains key => (.present (c.contains key now).1, (c.contains key now).2)
  | .getOrInsert key value =>
    (.kept (c.getOrInsert key value now).1, (c.getOrInsert key value now).2)
  | .purge => (.dropped (c.purgeCount now), c.purge now)
  | .clear => (.done, c.clear)

/-- The table after the operations of a log. -/
def after (c : Expiring κ ν) (log : List (Instant × Access κ ν)) : Expiring κ ν :=
  log.foldl (fun c e => (c.access e.1 e.2).2) c

def replies (c : Expiring κ ν) : List (Instant × Access κ ν) → List (Reply ν)
  | [] => []
  | e :: rest => (c.access e.1 e.2).1 :: (c.access e.1 e.2).2.replies rest

/-- The last storings of the keys after one more operation. -/
def note (ttl : Span) (last : κ → Option (Storing ν)) (e : Instant × Access κ ν) :
    κ → Option (Storing ν) :=
  fun key => match e.2 with
    | .insert k value => if k = key then some ⟨value, e.1⟩ else last key
    | .getOrInsert k value =>
      if k = key ∧ alive ttl e.1 (last key) = none then some ⟨value, e.1⟩ else last key
    | .clear => none
    | .get _ | .contains _ | .purge => last key

/-- The last storing of each key since the table was cleared: an insertion, or a `getOrInsert` that
found nothing alive. -/
def lastStored (ttl : Span) (log : List (Instant × Access κ ν)) : κ → Option (Storing ν) :=
  log.foldl (note ttl) fun _ => none

/-- The operation `e` after a log stores `value` under `key`. -/
def Stores (ttl : Span) (log : List (Instant × Access κ ν)) (e : Instant × Access κ ν) (key : κ)
    (value : ν) : Prop :=
  e.2 = .insert key value ∨
    e.2 = .getOrInsert key value ∧ alive ttl e.1 (lastStored ttl log key) = none

theorem lastStored_append (ttl : Span) (log more : List (Instant × Access κ ν)) :
    lastStored ttl (log ++ more) = more.foldl (note ttl) (lastStored ttl log) :=
  List.foldl_append

theorem lastStored_concat (ttl : Span) (log : List (Instant × Access κ ν))
    (e : Instant × Access κ ν) :
    lastStored ttl (log ++ [e]) = note ttl (lastStored ttl log) e :=
  lastStored_append ttl log [e]

theorem note_of_stores {ttl : Span} {log : List (Instant × Access κ ν)}
    {e : Instant × Access κ ν} {key : κ} {value : ν} (h : Stores ttl log e key value) :
    note ttl (lastStored ttl log) e key = some ⟨value, e.1⟩ := by
  unfold note
  rcases h with ha | ⟨ha, halive⟩
  · rw [ha]
    exact if_pos rfl
  · rw [ha]
    exact if_pos ⟨rfl, halive⟩

theorem note_of_not_stores {ttl : Span} {log : List (Instant × Access κ ν)}
    {e : Instant × Access κ ν} {key : κ} (hclear : e.2 ≠ .clear)
    (h : ∀ value, ¬Stores ttl log e key value) :
    note ttl (lastStored ttl log) e key = lastStored ttl log key := by
  obtain ⟨now, a⟩ := e
  cases a with
  | get | contains | purge => rfl
  | clear => exact absurd rfl hclear
  | insert k value =>
    refine if_neg ?_
    rintro rfl
    exact h value (.inl rfl)
  | getOrInsert k value =>
    refine if_neg ?_
    rintro ⟨rfl, halive⟩
    exact h value (.inr ⟨rfl, halive⟩)

/-- The last storing is an operation of the log that stores, with no clear and no storing of its key
after it. -/
theorem lastStored_eq_some_iff {ttl : Span} {log : List (Instant × Access κ ν)} {key : κ}
    {s : Storing ν} :
    lastStored ttl log key = some s ↔
      ∃ before e rest, log = before ++ e :: rest ∧ e.1 = s.time ∧
        Stores ttl before e key s.value ∧
        ∀ mid e', mid ++ [e'] <+: rest →
          e'.2 ≠ .clear ∧ ∀ value, ¬Stores ttl (before ++ e :: mid) e' key value := by
  constructor
  · intro h
    induction log using List.reverseRecOn with
    | nil => cases h
    | append_singleton log e ih =>
      rw [lastStored_concat] at h
      by_cases hclear : e.2 = .clear
      · simp [note, hclear] at h
      · by_cases hstores : ∃ value, Stores ttl log e key value
        · obtain ⟨value, hvalue⟩ := hstores
          obtain rfl : ⟨value, e.1⟩ = s :=
            Option.some.inj ((note_of_stores hvalue).symm.trans h)
          refine ⟨log, e, [], rfl, rfl, hvalue, fun mid e' hpre => ?_⟩
          simp at hpre
        · rw [note_of_not_stores hclear (not_exists.mp hstores)] at h
          obtain ⟨before, e₀, rest, rfl, htime, hstored, hafter⟩ := ih h
          refine ⟨before, e₀, rest ++ [e], by simp, htime, hstored, fun mid e' hpre => ?_⟩
          rcases List.prefix_concat_iff.mp hpre with heq | hpre
          · obtain ⟨rfl, rfl⟩ := List.append_inj' heq rfl |>.imp_right List.singleton_inj.mp
            exact ⟨hclear, not_exists.mp hstores⟩
          · exact hafter mid e' hpre
  · rintro ⟨before, e, rest, rfl, htime, hstored, hafter⟩
    induction rest using List.reverseRecOn with
    | nil => rw [lastStored_concat, note_of_stores hstored, htime]
    | append_singleton rest e' ih =>
      obtain ⟨hclear, hnot⟩ := hafter rest e' (List.prefix_refl _)
      rw [← List.cons_append, ← List.append_assoc, lastStored_concat,
        note_of_not_stores hclear hnot]
      exact ih fun mid e'' hpre => hafter mid e'' (hpre.trans (List.prefix_append _ _))

/-- What is alive stays while nothing replaces it. -/
theorem foldl_note_eq {ttl : Span} {last : κ → Option (Storing ν)}
    {log : List (Instant × Access κ ν)} {key : κ} {s : Storing ν} (hlast : last key = some s)
    (hlog : ∀ e ∈ log, e.1 < s.time + ttl ∧ e.2 ≠ .clear ∧ ∀ value, e.2 ≠ .insert key value) :
    log.foldl (note ttl) last key = some s := by
  induction log generalizing last with
  | nil => exact hlast
  | cons e rest ih =>
    refine ih ?_ fun e' he' => hlog e' (List.mem_cons_of_mem e he')
    obtain ⟨hlt, hclear, hinsert⟩ := hlog e List.mem_cons_self
    obtain ⟨now, a⟩ := e
    cases a with
    | get | contains | purge => exact hlast
    | clear => exact absurd rfl hclear
    | insert k value =>
      refine (if_neg ?_).trans hlast
      rintro rfl
      exact hinsert value rfl
    | getOrInsert k value =>
      refine (if_neg ?_).trans hlast
      rintro ⟨-, hnone⟩
      have halive : alive ttl now (last key) = some s.value := by
        rw [hlast]
        exact if_pos hlt
      rw [halive] at hnone
      cases hnone

theorem note_of_isRead {ttl : Span} {last : κ → Option (Storing ν)} {e : Instant × Access κ ν}
    (h : e.2.isRead) : note ttl last e = last := by
  obtain ⟨now, a⟩ := e
  cases a with
  | get | contains | purge => rfl
  | insert | getOrInsert | clear => cases h

theorem after_append (c : Expiring κ ν) (log more : List (Instant × Access κ ν)) :
    c.after (log ++ more) = (c.after log).after more :=
  List.foldl_append

theorem replies_append (c : Expiring κ ν) (log more : List (Instant × Access κ ν)) :
    c.replies (log ++ more) = c.replies log ++ (c.after log).replies more := by
  induction log generalizing c with
  | nil => rfl
  | cons e rest ih => exact congrArg (_ :: ·) (ih _)

theorem find?_erase (c : Expiring κ ν) (key k : κ) :
    (c.erase key).find? k = if key = k then none else c.find? k := by
  unfold erase find?
  dsimp only
  rw [List.find?_filter]
  split
  next heq =>
    rw [List.find?_eq_none]
    rintro e - hboth
    simp [heq] at hboth
  next hne =>
    congr 1
    funext e
    by_cases he : e.key = k
    · simp [he, Ne.symm hne]
    · simp [he]

theorem find?_insert (c : Expiring κ ν) (key k : κ) (value : ν) (now : Instant) :
    (c.insert key value now).find? k =
      if key = k then some ⟨key, value, now + c.ttl⟩ else c.find? k := by
  split
  next heq => exact List.find?_cons_of_pos (by simpa using heq)
  next hne =>
    have herase : (c.insert key value now).find? k = (c.erase key).find? k :=
      List.find?_cons_of_neg (by simpa using hne)
    rw [herase, find?_erase, if_neg hne]

/-- Whether the keys of the stored entries are distinct. -/
def Distinct (c : Expiring κ ν) : Prop := (c.entries.map (·.key)).Nodup

omit [DecidableEq κ] in
theorem distinct_filter {c : Expiring κ ν} (h : c.Distinct) (p : Entry κ ν → Bool) :
    Distinct { c with entries := c.entries.filter p } :=
  h.sublist (List.filter_sublist.map _)

theorem distinct_insert {c : Expiring κ ν} (h : c.Distinct) (key : κ) (value : ν)
    (now : Instant) : (c.insert key value now).Distinct := by
  refine List.nodup_cons.mpr ⟨?_, distinct_filter h _⟩
  rintro hmem
  obtain ⟨e, he, hkey⟩ := List.mem_map.mp hmem
  have := (List.mem_filter.mp he).2
  simp [hkey] at this

theorem find?_purge {c : Expiring κ ν} (h : c.Distinct) (now : Instant) (key : κ) :
    (c.purge now).find? key = (c.find? key).filter (now < ·.expires) := by
  have hpurged : (c.purge now).Distinct := distinct_filter h (now < ·.expires)
  ext e
  rw [Option.filter_eq_some_iff]
  unfold find?
  rw [Keyed.find?_eq_some_iff h, Keyed.find?_eq_some_iff hpurged]
  unfold purge
  rw [List.mem_filter]
  constructor
  · rintro ⟨⟨hmem, hlt⟩, hkey⟩
    exact ⟨⟨hmem, hkey⟩, hlt⟩
  · rintro ⟨⟨hmem, hkey⟩, hlt⟩
    exact ⟨⟨hmem, hlt⟩, hkey⟩

/-- The table holds what the last storings say.  An entry may be missing once it has expired. -/
structure Tracks (c : Expiring κ ν) (last : κ → Option (Storing ν)) (now : Instant) : Prop where
  distinct : c.Distinct
  entry : ∀ key, c.find? key = (last key).map (fun s => ⟨key, s.value, s.time + c.ttl⟩) ∨
    c.find? key = none ∧ ∃ s, last key = some s ∧ s.time + c.ttl ≤ now

namespace Tracks

variable {c : Expiring κ ν} {last : κ → Option (Storing ν)} {now : Instant}

theorem empty (ttl : Span) (now : Instant) :
    (Expiring.empty ttl : Expiring κ ν).Tracks (fun _ => none) now :=
  ⟨List.nodup_nil, fun _ => .inl rfl⟩

theorem mono (h : c.Tracks last now) {later : Instant} (hle : now ≤ later) :
    c.Tracks last later := by
  refine ⟨h.distinct, fun key => (h.entry key).imp_right ?_⟩
  rintro ⟨hnone, s, hs, hexp⟩
  exact ⟨hnone, s, hs, Int.le_trans hexp hle⟩

/-- A look-up finds what is alive. -/
theorem live_eq (h : c.Tracks last now) (key : κ) :
    ((c.find? key).filter (now < ·.expires)).map (·.value) = alive c.ttl now (last key) := by
  rcases h.entry key with hfind | ⟨hnone, s, hs, hexp⟩
  · rw [hfind]
    cases last key with
    | none => rfl
    | some s =>
      by_cases hlt : now < s.time + c.ttl <;> simp [alive, Option.filter, hlt, -Int.not_lt]
  · rw [hnone, hs]
    simp [alive, Int.not_lt.mpr hexp]

theorem get_fst (h : c.Tracks last now) (key : κ) :
    (c.get key now).1 = alive c.ttl now (last key) := by
  rw [← h.live_eq key]
  unfold get
  cases c.find? key with
  | none => rfl
  | some e => by_cases hlt : now < e.expires <;> simp [Option.filter, hlt, -Int.not_lt]

theorem contains_fst (h : c.Tracks last now) (key : κ) :
    (c.contains key now).1 = (alive c.ttl now (last key)).isSome :=
  congrArg Option.isSome (h.get_fst key)

theorem getOrInsert_hit (h : c.Tracks last now) {key : κ} {value : ν}
    (halive : alive c.ttl now (last key) = some value) (new : ν) :
    c.getOrInsert key new now = (value, c) := by
  rw [← h.live_eq key] at halive
  unfold getOrInsert
  cases hfind : c.find? key with
  | none => rw [hfind] at halive; cases halive
  | some e =>
    rw [hfind] at halive
    by_cases hlt : now < e.expires
    · have hvalue : e.value = value := by simpa [hlt] using halive
      simp [hlt, hvalue]
    · simp [hlt] at halive

theorem getOrInsert_miss (h : c.Tracks last now) {key : κ}
    (halive : alive c.ttl now (last key) = none) (new : ν) :
    c.getOrInsert key new now = (new, c.insert key new now) := by
  rw [← h.live_eq key] at halive
  unfold getOrInsert
  cases hfind : c.find? key with
  | none => rfl
  | some e =>
    rw [hfind] at halive
    have hexp : e.expires ≤ now := by simpa using halive
    exact if_neg (Int.not_lt.mpr hexp)

theorem insert (h : c.Tracks last now) (key : κ) (value : ν) :
    (c.insert key value now).Tracks (note c.ttl last (now, .insert key value)) now := by
  refine ⟨distinct_insert h.distinct key value now, fun k => ?_⟩
  rw [find?_insert]
  by_cases heq : key = k
  · refine .inl ?_
    simp [note, heq, Expiring.insert]
  · simp only [note, heq, if_false]
    exact h.entry k

theorem get (h : c.Tracks last now) (key : κ) : (c.get key now).2.Tracks last now := by
  unfold Expiring.get
  cases hfind : c.find? key with
  | none => exact h
  | some e =>
    by_cases hlt : now < e.expires
    · simpa [hlt] using h
    · simp only [hlt, if_false]
      refine ⟨distinct_filter h.distinct _, fun k => ?_⟩
      rw [find?_erase]
      split
      next heq =>
        -- what the look-up dropped is what the log says has expired
        obtain hfound | ⟨hnone, -⟩ := h.entry key
        · rw [hfind] at hfound
          obtain ⟨s, hs, he⟩ := Option.map_eq_some_iff.mp hfound.symm
          refine .inr ⟨rfl, s, by rw [← heq, hs], ?_⟩
          have hexp : e.expires = s.time + c.ttl := by rw [← he]
          exact hexp ▸ Int.not_lt.mp hlt
        · rw [hfind] at hnone
          cases hnone
      next => exact h.entry k

theorem purge (h : c.Tracks last now) : (c.purge now).Tracks last now := by
  refine ⟨distinct_filter h.distinct _, fun k => ?_⟩
  rw [find?_purge h.distinct]
  rcases h.entry k with hfind | ⟨hnone, s, hs, hexp⟩
  · cases hlast : last k with
    | none =>
      rw [hfind, hlast]
      exact .inl rfl
    | some s =>
      rw [hlast] at hfind
      by_cases hlt : now < s.time + c.ttl
      · exact .inl (by simp [hfind, hlt, Expiring.purge])
      · exact .inr ⟨by simp [hfind, Option.filter, hlt, -Int.not_lt], s, rfl, Int.not_lt.mp hlt⟩
  · exact .inr ⟨by rw [hnone]; rfl, s, hs, hexp⟩

/-- One operation at `now` or later. -/
theorem access (h : c.Tracks last now) (a : Access κ ν) :
    (c.access now a).2.Tracks (note c.ttl last (now, a)) now := by
  cases a with
  | insert key value => exact h.insert key value
  | get key => exact h.get key
  | contains key => exact h.get key
  | purge => exact h.purge
  | clear => exact ⟨List.nodup_nil, fun _ => .inl rfl⟩
  | getOrInsert key value =>
    show (c.getOrInsert key value now).2.Tracks _ now
    cases halive : alive c.ttl now (last key) with
    | some v =>
      rw [h.getOrInsert_hit halive]
      have hnote : note c.ttl last (now, .getOrInsert key value) = last := by
        funext k
        refine if_neg ?_
        rintro ⟨rfl, hnone⟩
        rw [halive] at hnone
        cases hnone
      rwa [hnote]
    | none =>
      rw [h.getOrInsert_miss halive]
      have hnote : note c.ttl last (now, .getOrInsert key value) =
          note c.ttl last (now, .insert key value) := by
        funext k
        simp only [note]
        by_cases heq : key = k
        · subst heq
          rw [if_pos ⟨rfl, halive⟩, if_pos rfl]
        · rw [if_neg fun hk => heq hk.1, if_neg heq]
      rw [hnote]
      exact h.insert key value

end Tracks

theorem ttl_access (c : Expiring κ ν) (now : Instant) (a : Access κ ν) :
    (c.access now a).2.ttl = c.ttl := by
  cases a with
  | insert | purge | clear => rfl
  | get key | contains key =>
    show (c.get key now).2.ttl = c.ttl
    unfold get
    cases c.find? key with
    | none => rfl
    | some e => by_cases hlt : now < e.expires <;> simp [hlt, erase]
  | getOrInsert key value =>
    show (c.getOrInsert key value now).2.ttl = c.ttl
    unfold getOrInsert
    cases c.find? key with
    | none => rfl
    | some e => by_cases hlt : now < e.expires <;> simp [hlt, insert]

theorem ttl_after (c : Expiring κ ν) (log : List (Instant × Access κ ν)) :
    (c.after log).ttl = c.ttl := by
  induction log generalizing c with
  | nil => rfl
  | cons e rest ih => exact (ih _).trans (ttl_access c e.1 e.2)

/-- A table that started empty tracks the last storings of its log. -/
theorem tracks_after (ttl : Span) {log : List (Instant × Access κ ν)} {now : Instant}
    (h : Chronological log now) : ((empty ttl).after log).Tracks (lastStored ttl log) now := by
  induction log using List.reverseRecOn generalizing now with
  | nil => exact Tracks.empty ttl now
  | append_singleton log e ih =>
    have hstep := (ih h.prior).access e.2
    rw [ttl_after] at hstep
    rw [after_append, lastStored_concat]
    exact hstep.mono (h.le_now (List.mem_append_right _ List.mem_cons_self))

/-- What an operation replies by the last storings, the number of entries left out. -/
def told (ttl : Span) (last : κ → Option (Storing ν)) (e : Instant × Access κ ν) : Reply ν :=
  match e.2 with
  | .insert _ _ | .clear => .done
  | .get key => .found (alive ttl e.1 (last key))
  | .contains key => .present (alive ttl e.1 (last key)).isSome
  | .getOrInsert key value => .kept ((alive ttl e.1 (last key)).getD value)
  | .purge => .dropped 0

def retold (ttl : Span) (last : κ → Option (Storing ν)) :
    List (Instant × Access κ ν) → List (Reply ν)
  | [] => []
  | e :: rest => told ttl last e :: retold ttl (note ttl last e) rest

theorem retold_append (ttl : Span) (last : κ → Option (Storing ν))
    (log more : List (Instant × Access κ ν)) :
    retold ttl last (log ++ more) =
      retold ttl last log ++ retold ttl (log.foldl (note ttl) last) more := by
  induction log generalizing last with
  | nil => rfl
  | cons e rest ih => exact congrArg (_ :: ·) (ih _)

theorem length_retold (ttl : Span) (last : κ → Option (Storing ν))
    (log : List (Instant × Access κ ν)) : (retold ttl last log).length = log.length := by
  induction log generalizing last with
  | nil => rfl
  | cons e rest ih => exact congrArg (· + 1) (ih _)

theorem Tracks.told {c : Expiring κ ν} {last : κ → Option (Storing ν)} {now : Instant}
    (h : c.Tracks last now) (a : Access κ ν) :
    (c.access now a).1.uncounted = told c.ttl last (now, a) := by
  cases a with
  | insert | clear | purge => rfl
  | get key => exact congrArg Reply.found (h.get_fst key)
  | contains key => exact congrArg Reply.present (h.contains_fst key)
  | getOrInsert key value =>
    refine congrArg Reply.kept ?_
    cases halive : alive c.ttl now (last key) with
    | some v => rw [h.getOrInsert_hit halive, Option.getD_some]
    | none => rw [h.getOrInsert_miss halive, Option.getD_none]

theorem replies_uncounted (ttl : Span) {log : List (Instant × Access κ ν)} {now : Instant}
    (h : Chronological log now) :
    ((empty ttl).replies log).map Reply.uncounted = retold ttl (fun _ => none) log := by
  induction log using List.reverseRecOn generalizing now with
  | nil => rfl
  | append_singleton log e ih =>
    have htold := (tracks_after ttl h.prior).told e.2
    rw [ttl_after] at htold
    rw [replies_append, retold_append, List.map_append, ih h.prior]
    exact congrArg (_ ++ [·]) htold

/-- A read is without effect on every other reply. -/
theorem replies_eraseIdx (ttl : Span) {before rest : List (Instant × Access κ ν)}
    {e : Instant × Access κ ν} {now : Instant} (h : Chronological (before ++ e :: rest) now)
    (hread : e.2.isRead) :
    (((empty ttl).replies (before ++ e :: rest)).eraseIdx before.length).map Reply.uncounted =
      ((empty ttl).replies (before ++ rest)).map Reply.uncounted := by
  have hless := h.sublist ((List.sublist_cons_self e rest).append_left before)
  rw [← List.eraseIdx_map, replies_uncounted ttl h, replies_uncounted ttl hless, retold_append,
    retold_append, ← length_retold ttl (fun _ => none) before]
  simp only [retold, note_of_isRead hread, List.eraseIdx_append_of_length_le (Nat.le_refl _),
    Nat.sub_self, List.eraseIdx_cons_zero]

/-- A table whose entries live for `ttl` answers at `now` by the last storings of the keys. -/
structure AnswersBy (c : Expiring κ ν) (ttl : Span) (last : κ → Option (Storing ν))
    (now : Instant) : Prop where
  get : ∀ key value, (c.get key now).1 = some value ↔
    ∃ t, last key = some ⟨value, t⟩ ∧ now < t + ttl
  contains : ∀ key, (c.contains key now).1 = true ↔
    ∃ value t, last key = some ⟨value, t⟩ ∧ now < t + ttl
  kept : ∀ key value t new, last key = some ⟨value, t⟩ → now < t + ttl →
    c.getOrInsert key new now = (value, c)
  stored : ∀ key new, (¬∃ value t, last key = some ⟨value, t⟩ ∧ now < t + ttl) →
    c.getOrInsert key new now = (new, c.insert key new now)

theorem Tracks.answersBy {c : Expiring κ ν} {last : κ → Option (Storing ν)} {now : Instant}
    (h : c.Tracks last now) : c.AnswersBy c.ttl last now where
  get key value := by rw [h.get_fst, alive_eq_some]
  contains key := by simp only [h.contains_fst, Option.isSome_iff_exists, alive_eq_some]
  kept _ _ t new hlast hlt := h.getOrInsert_hit (alive_eq_some.mpr ⟨t, hlast, hlt⟩) new
  stored key new hnone := by
    refine h.getOrInsert_miss (Option.eq_none_iff_forall_ne_some.mpr fun value halive => ?_) new
    exact hnone ⟨value, alive_eq_some.mp halive⟩

theorem answersBy_after (ttl : Span) {log : List (Instant × Access κ ν)} {now : Instant}
    (h : Chronological log now) :
    ((empty ttl).after log).AnswersBy ttl (lastStored ttl log) now := by
  have hanswers := (tracks_after ttl h).answersBy
  rwa [ttl_after] at hanswers

theorem lastStored_of_isRead (ttl : Span) (before rest : List (Instant × Access κ ν))
    {e : Instant × Access κ ν} (hread : e.2.isRead) :
    lastStored ttl (before ++ e :: rest) = lastStored ttl (before ++ rest) := by
  rw [lastStored_append, lastStored_append, List.foldl_cons, note_of_isRead hread]

end Expiring

end ScanFleet
