import Mathlib.Data.List.Induction
import Mathlib.Data.Nat.Find
import Mathlib.Order.Bounds.Basic
import ScanFleet.Proofs.Time.Calendar
import ScanFleet.Quest.Schedule

/-! When quest scanning starts.  A look at the clock starts it in the earliest of the set hours,
unless the look before it was in the same slot.  On a clock with a fixed offset the looks at one
slot follow each other, so the first of them is the only one that starts anything, and a day has one
slot of the earliest hour. -/

namespace ScanFleet

/-! ### The earliest hour -/

namespace Hours

/-- The hour is the least of those in a list; a number from 256 on is no hour. -/
def IsEarliest (l : List Nat) (hour : Nat) : Prop := IsLeast {n | n ∈ l ∧ n < 256} hour

theorem contains_of_earliest? {h : Hours} {n : Nat} (hn : h.earliest? = some n) : h.contains n :=
  List.elem_eq_true_of_mem (List.mem_of_head? hn)

theorem earliest?_ofList_iff {l : List Nat} {n : Nat} :
    (ofList l).earliest? = some n ↔ IsEarliest l n := by
  have hsorted : (ofList l).list.Pairwise (· < ·) := List.pairwise_lt_range.filter _
  have hset : {n | n ∈ l ∧ n < 256} = {n | n ∈ (ofList l).list} := by
    ext m
    simp [ofList, and_comm]
  rw [IsEarliest, hset, earliest?]
  cases hl : (ofList l).list with
  | nil => simp [IsLeast]
  | cons m rest =>
    rw [hl] at hsorted
    have hleast : IsLeast {n | n ∈ m :: rest} m :=
      ⟨List.mem_cons_self, List.forall_mem_cons.mpr
        ⟨Nat.le_refl m, fun n hn => Nat.le_of_lt (List.rel_of_pairwise_cons hsorted hn)⟩⟩
    rw [List.head?_cons, Option.some.injEq]
    exact ⟨fun h => h ▸ hleast, hleast.unique⟩

end Hours

/-! ### Slots -/

namespace LocalHour

variable {t u v : Instant} {offset : Int}

theorem at_eq_iff : LocalHour.at t offset = LocalHour.at u offset ↔
    t.date offset = u.date offset ∧ t.hour offset = u.hour offset := by
  rw [Instant.date_eq_iff, LocalHour.at, LocalHour.at, LocalHour.mk.injEq, and_comm]
  refine and_congr_left fun _ => ?_
  unfold Instant.midnight Instant.day Instant.secondOfDay secondsPerDay
  omega

/-- On a clock with a fixed offset a slot is passed without a break. -/
theorem at_eq_of_between (h : LocalHour.at t offset = LocalHour.at u offset) (htv : t ≤ v)
    (hvu : v ≤ u) : LocalHour.at v offset = LocalHour.at u offset := by
  have hseconds : t.seconds ≤ v.seconds ∧ v.seconds ≤ u.seconds :=
    ⟨Int.ediv_le_ediv (by decide) htv, Int.ediv_le_ediv (by decide) hvu⟩
  simp only [LocalHour.at, LocalHour.mk.injEq, Instant.hour, Instant.midnight, Instant.secondOfDay,
    secondsPerDay] at h ⊢
  generalize t.seconds = a, u.seconds = b, v.seconds = c at h hseconds ⊢
  omega

end LocalHour

namespace Schedule

theorem check_snd (s : Schedule) (now : Instant) (offset : Int) :
    (s.check now offset).2 = { s with last := some (.at now offset) } := by
  unfold check
  dsimp only
  split
  next h => rw [← h]
  next => rfl

theorem check_fst_iff {s : Schedule} {now : Instant} {offset : Int} :
    (s.check now offset).1 = true ↔
      s.hours.earliest? = some (now.hour offset) ∧ s.last ≠ some (.at now offset) := by
  unfold check
  dsimp only
  split
  next h => simp [h]
  next h =>
    simp only [Bool.and_eq_true, beq_iff_eq, h, ne_eq, not_false_eq_true, and_true]
    exact and_iff_right_of_imp Hours.contains_of_earliest?

/-- The answers to looks at the clock, which is ahead of UTC by an offset that may not be known. -/
def answers (offsetAt : Instant → Option Int) : Schedule → List Instant → List Bool
  | _, [] => []
  | s, t :: calls =>
    match offsetAt t with
    | none => false :: answers offsetAt s calls
    | some offset => (s.check t offset).1 :: answers offsetAt (s.check t offset).2 calls

/-- The slot that was looked at last after some calls. -/
def lastSlot (offsetAt : Instant → Option Int) (s : Schedule) (calls : List Instant) :
    Option LocalHour :=
  (calls.filterMap fun t => (offsetAt t).map (.at t)).getLast?.or s.last

variable {offsetAt : Instant → Option Int}

theorem length_answers (s : Schedule) (calls : List Instant) :
    (s.answers offsetAt calls).length = calls.length := by
  induction calls generalizing s with
  | nil => rfl
  | cons t calls ih =>
    rw [answers]
    split <;> simp [ih]

/-- A call starts quest scanning in the earliest hour, in a slot other than the last one. -/
theorem answers_iff (s : Schedule) {calls : List Instant} {k : Nat} {t : Instant}
    (ht : calls[k]? = some t) : (s.answers offsetAt calls)[k]? = some true ↔
      ∃ offset, offsetAt t = some offset ∧ s.hours.earliest? = some (t.hour offset) ∧
        s.lastSlot offsetAt (calls.take k) ≠ some (.at t offset) := by
  induction calls generalizing s k with
  | nil => cases ht
  | cons u calls ih =>
    rw [answers]
    cases k with
    | zero =>
      obtain rfl := Option.some.inj ht
      cases ho : offsetAt u with
      | none => simp
      | some offset => simp [check_fst_iff, lastSlot]
    | succ k =>
      cases ho : offsetAt u with
      | none => simp [ih s ht, lastSlot, ho]
      | some offset =>
        rw [List.getElem?_cons_succ, ih _ ht, check_snd]
        simp [lastSlot, ho, List.getLast?_cons]

theorem lastSlot_concat (s : Schedule) (calls : List Instant) (t : Instant) :
    s.lastSlot offsetAt (calls ++ [t]) =
      ((offsetAt t).map (.at t)).or (s.lastSlot offsetAt calls) := by
  cases ho : offsetAt t <;> simp [lastSlot, ho]

/-- After a call for which the offset was known, the last slot is that of this call or a later
one. -/
theorem exists_lastSlot (s : Schedule) {calls : List Instant} {i : Nat} {t : Instant}
    (ht : calls[i]? = some t) (ho : (offsetAt t).isSome) :
    ∃ k u offset, i ≤ k ∧ calls[k]? = some u ∧ offsetAt u = some offset ∧
      s.lastSlot offsetAt calls = some (.at u offset) := by
  induction calls using List.reverseRecOn with
  | nil => cases ht
  | append_singleton calls u ih =>
    have hi : i < (calls ++ [u]).length := (List.getElem?_eq_some_iff.mp ht).1
    rw [List.length_append, List.length_singleton] at hi
    rw [lastSlot_concat]
    cases hu : offsetAt u with
    | some offset => exact ⟨calls.length, u, offset, by omega, by simp, hu, rfl⟩
    | none =>
      have hne : i ≠ calls.length := by
        rintro rfl
        simp only [List.getElem?_concat_length, Option.some.injEq] at ht
        simp [← ht, hu] at ho
      have hlt : i < calls.length := by omega
      rw [List.getElem?_append_left hlt] at ht
      obtain ⟨k, v, offset, hik, hv, hov, hlast⟩ := ih ht
      have hk : k < calls.length := (List.getElem?_eq_some_iff.mp hv).1
      exact ⟨k, v, offset, hik, by rw [List.getElem?_append_left hk, hv], hov, hlast⟩

theorem le_of_getElem? {calls : List Instant} (hcalls : calls.Pairwise (· ≤ ·)) {i j : Nat}
    {t u : Instant} (hij : i ≤ j) (ht : calls[i]? = some t) (hu : calls[j]? = some u) : t ≤ u := by
  rcases Nat.eq_or_lt_of_le hij with rfl | hlt
  · exact Int.le_of_eq (Option.some.inj (ht.symm.trans hu))
  · obtain ⟨hi, rfl⟩ := List.getElem?_eq_some_iff.mp ht
    obtain ⟨hj, rfl⟩ := List.getElem?_eq_some_iff.mp hu
    exact List.pairwise_iff_getElem.mp hcalls i j hi hj hlt

/-- While the offset stays, the calls in one slot follow each other. -/
theorem lastSlot_take (s : Schedule) {calls : List Instant} (hcalls : calls.Pairwise (· ≤ ·))
    {i j : Nat} {t u : Instant} {offset : Int} (hij : i < j) (ht : calls[i]? = some t)
    (hu : calls[j]? = some u) (ho : offsetAt t = some offset)
    (hstays : ∀ k v o, i < k → k < j → calls[k]? = some v → offsetAt v = some o → o = offset)
    (hslot : LocalHour.at t offset = .at u offset) :
    s.lastSlot offsetAt (calls.take j) = some (.at u offset) := by
  have hti : (calls.take j)[i]? = some t := by rw [List.getElem?_take_of_lt hij, ht]
  obtain ⟨k, v, o, hik, hv, hov, hlast⟩ := s.exists_lastSlot hti (Option.isSome_of_eq_some ho)
  have hkj : k < j := by
    have hk := (List.getElem?_eq_some_iff.mp hv).1
    rw [List.length_take] at hk
    omega
  rw [List.getElem?_take_of_lt hkj] at hv
  have hoffset : o = offset := by
    rcases Nat.eq_or_lt_of_le hik with rfl | hlt
    · obtain rfl := Option.some.inj (ht.symm.trans hv)
      exact Option.some.inj (hov.symm.trans ho)
    · exact hstays k v o hlt hkj hv hov
  subst hoffset
  rw [hlast, LocalHour.at_eq_of_between hslot (le_of_getElem? hcalls hik ht hv)
    (le_of_getElem? hcalls (Nat.le_of_lt hkj) hv hu)]

/-! ### A clock with a fixed offset -/

/-- The call is the first one in its slot, and the hour is the earliest one. -/
theorem fixed_answers_iff (l : List Nat) (offset : Int) {calls : List Instant}
    (hcalls : calls.Pairwise (· ≤ ·)) {k : Nat} {t : Instant} (ht : calls[k]? = some t) :
    ((Schedule.new (.ofList l)).answers (fun _ => some offset) calls)[k]? = some true ↔
      Hours.IsEarliest l (t.hour offset) ∧ ∀ (j : Nat) (u : Instant), j < k → calls[j]? = some u →
        ¬ (u.date offset = t.date offset ∧ u.hour offset = t.hour offset) := by
  have hearliest : (Schedule.new (.ofList l)).hours.earliest? = some (t.hour offset) ↔
      Hours.IsEarliest l (t.hour offset) := Hours.earliest?_ofList_iff
  rw [answers_iff _ ht, ← hearliest]
  simp only [Option.some.injEq, exists_eq_left', ← LocalHour.at_eq_iff]
  refine and_congr_right fun _ => ⟨fun h j u hjk hu he => h ?_, fun h hlast => ?_⟩
  · exact lastSlot_take _ hcalls hjk hu ht rfl
      (fun _ _ _ _ _ _ ho => (Option.some.inj ho).symm) he
  · rw [lastSlot, Schedule.new, Option.or_none] at hlast
    obtain ⟨u, hu, he⟩ := List.mem_filterMap.mp (List.mem_of_getLast? hlast)
    obtain ⟨j, hj, hget⟩ := List.mem_take_iff_getElem.mp hu
    exact h j u (by omega) (List.getElem?_eq_some_iff.mpr ⟨_, hget⟩) (Option.some.inj he)

/-- On a clock with a fixed offset a call starts quest scanning exactly if it is the first one in
the earliest hour of its day.  So a day on which some call falls in that hour has one start, and
another day has none. -/
theorem check_once_a_day (l : List Nat) (offset : Int) {calls : List Instant}
    (hcalls : calls.Pairwise (· ≤ ·)) :
    let answers := (Schedule.new (.ofList l)).answers (fun _ => some offset) calls
    answers.length = calls.length ∧
    (∀ k t, calls[k]? = some t → (answers[k]? = some true ↔
      Hours.IsEarliest l (t.hour offset) ∧ ∀ (j : Nat) (u : Instant), j < k → calls[j]? = some u →
        ¬ (u.date offset = t.date offset ∧ u.hour offset = t.hour offset))) ∧
    ∀ date : Date,
      ((∃ t ∈ calls, t.date offset = date ∧ Hours.IsEarliest l (t.hour offset)) →
        ∃! k : Nat, answers[k]? = some true ∧
          ∃ t : Instant, calls[k]? = some t ∧ t.date offset = date) ∧
      ((∀ t ∈ calls, t.date offset = date → ¬ Hours.IsEarliest l (t.hour offset)) →
        ∀ (k : Nat) (t : Instant), calls[k]? = some t → t.date offset = date →
          answers[k]? = some false) := by
  intro answers
  have hfires {k : Nat} {t : Instant} (ht : calls[k]? = some t) :=
    fixed_answers_iff l offset hcalls ht
  refine ⟨length_answers _ _, fun k t => hfires, fun date => ⟨fun hex => ?_, ?_⟩⟩
  · have hindex : ∃ (k : Nat) (t : Instant), calls[k]? = some t ∧ t.date offset = date ∧
        Hours.IsEarliest l (t.hour offset) := by
      obtain ⟨t, ht, hdate, hleast⟩ := hex
      obtain ⟨k, hk⟩ := List.mem_iff_getElem?.mp ht
      exact ⟨k, t, hk, hdate, hleast⟩
    classical
    obtain ⟨t, ht, hdate, hleast⟩ := Nat.find_spec hindex
    have hfirst {j : Nat} {u : Instant} (hu : calls[j]? = some u) (hd : u.date offset = date)
        (hl : Hours.IsEarliest l (u.hour offset)) : Nat.find hindex ≤ j :=
      Nat.find_min' hindex ⟨u, hu, hd, hl⟩
    refine ⟨Nat.find hindex, ⟨(hfires ht).mpr ⟨hleast, fun j u hj hu he => ?_⟩, t, ht, hdate⟩, ?_⟩
    · exact Nat.not_lt.mpr (hfirst hu (he.1.trans hdate) (he.2 ▸ hleast)) hj
    · rintro j ⟨hanswer, u, hu, hd⟩
      obtain ⟨hl, hnone⟩ := (hfires hu).mp hanswer
      refine Nat.le_antisymm (Nat.not_lt.mp fun hlt => ?_) (hfirst hu hd hl)
      exact hnone _ t hlt ht ⟨hdate.trans hd.symm, hleast.unique hl⟩
  · intro hnone k t ht hdate
    have hk : k < answers.length := by
      rw [length_answers]
      exact (List.getElem?_eq_some_iff.mp ht).1
    rw [List.getElem?_eq_getElem hk, Option.some.injEq, ← Bool.not_eq_true]
    intro htrue
    have hanswer : answers[k]? = some true := by rw [List.getElem?_eq_getElem hk, htrue]
    exact hnone t (List.mem_of_getElem? ht) hdate ((hfires ht).mp hanswer).1

/-- Calls on the last day of 1969 and on the two days after it, an hour ahead of UTC. -/
def newYearCalls : List Instant := [-67800000, -65400000, -14400000, 18300000, 108000000]

theorem check_once_a_day_newYear :
    let answers := (Schedule.new (.ofList [21, 6, 300])).answers (fun _ => some 3600) newYearCalls
    newYearCalls.Pairwise (· ≤ ·) ∧
    newYearCalls.map (fun t => (t.date 3600, t.hour 3600)) =
      [(⟨1969, 12, 31⟩, 6), (⟨1969, 12, 31⟩, 6), (⟨1969, 12, 31⟩, 21), (⟨1970, 1, 1⟩, 6),
        (⟨1970, 1, 2⟩, 7)] ∧
    answers = [true, false, false, true, false] ∧
    ∃! k : Nat, answers[k]? = some true ∧
      ∃ t : Instant, newYearCalls[k]? = some t ∧ t.date 3600 = ⟨1969, 12, 31⟩ := by
  have hcalls : newYearCalls.Pairwise (· ≤ ·) := by decide
  refine ⟨hcalls, by decide, by decide +kernel, ?_⟩
  refine ((check_once_a_day [21, 6, 300] 3600 hcalls).2.2 ⟨1969, 12, 31⟩).1 ?_
  exact ⟨-65400000, by decide, by decide, Hours.earliest?_ofList_iff.mp (by decide +kernel)⟩

end Schedule

end ScanFleet
