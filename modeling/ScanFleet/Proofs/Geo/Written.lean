import Mathlib.Data.List.Forall2
import ScanFleet.Geo.Route
import ScanFleet.Proofs.Decimal.Numerals

/-! Routes that are written and read again.  A coordinate is written as one numeral, which holds
neither a blank nor a comma, so the text of a route reads back with as many steps.  The coordinates
themselves are rounded to six decimal places on the way. -/

namespace ScanFleet

namespace Text

/-! ### Fields and words -/

theorem split_of_not {p : Char → Bool} {cs : List Char} (h : ∀ c ∈ cs, p c = false) :
    split p cs = [cs] := by
  induction cs with
  | nil => rfl
  | cons c cs ih =>
    rw [List.forall_mem_cons] at h
    simp [split, h.1, ih h.2]

theorem split_append {p : Char → Bool} {cs rest : List Char} {c : Char}
    (h : ∀ c ∈ cs, p c = false) (hc : p c) : split p (cs ++ c :: rest) = cs :: split p rest := by
  induction cs with
  | nil => simp [split, hc]
  | cons d cs ih =>
    rw [List.forall_mem_cons] at h
    simp [split, h.1, ih h.2]

theorem split_intercalate {p : Char → Bool} {c : Char} (hc : p c) {fields : List (List Char)}
    (hne : fields ≠ []) (h : ∀ cs ∈ fields, ∀ d ∈ cs, p d = false) :
    split p ([c].intercalate fields) = fields := by
  induction fields with
  | nil => exact absurd rfl hne
  | cons cs fields ih =>
    rw [List.forall_mem_cons] at h
    cases fields with
    | nil => simpa [List.intercalate] using split_of_not h.1
    | cons ds fields =>
      rw [List.intercalate_cons_cons, List.append_assoc, List.singleton_append,
        split_append h.1 hc, ih (by simp) h.2]

/-- Two words with a blank between them. -/
theorem words_append {cs ds : List Char} {c : Char} (hcs : ∀ c ∈ cs, isBlank c = false)
    (hds : ∀ c ∈ ds, isBlank c = false) (hc : isBlank c) (hcne : cs ≠ []) (hdne : ds ≠ []) :
    words (cs ++ c :: ds) = [cs, ds] := by
  simp [words, split_append hcs hc, split_of_not hds, hcne, hdne]

end Text

open Text Decimal

/-! ### Routes -/

/-- No character of a written coordinate separates coordinates or steps. -/
theorem mem_coordinateText {x : Float} {c : Char} (h : c ∈ (coordinateText x).toList) :
    isBlank c = false ∧ (c == ',') = false := by
  rcases mem_fixed h with h | h
  · have hnum : 48 ≤ c.toNat ∧ c.toNat ≤ 57 := by
      simpa [Char.isDigit, UInt32.le_iff_toNat_le] using h
    refine ⟨?_, beq_false_of_ne ?_⟩
    · simp only [isBlank]
      grind
    · rintro rfl
      simp at hnum
  · have hmarks : marks.all fun c => !isBlank c && !(c == ',') := by decide
    have hc := List.all_eq_true.mp hmarks c (List.contains_iff_mem.mp h)
    simpa using hc

theorem isSome_read?_coordinateText (x : Float) :
    (Decimal.read? (coordinateText x).toList).isSome :=
  isSome_read?_fixed (by decide) x

theorem coordinateText_ne_nil (x : Float) : (coordinateText x).toList ≠ [] := by
  intro h
  have hsome := isSome_read?_coordinateText x
  rw [h] at hsome
  exact absurd hsome (by decide)

theorem toList_stepText (l : Location) :
    (stepText l).toList =
      (coordinateText l.latitude).toList ++ ' ' :: (coordinateText l.longitude).toList := by
  simp [stepText]

/-- `y` is the coordinate that the text of `x` with six decimal places stands for. -/
structure CoordinateStoredAs (x y : Float) : Prop where
  text : (Value.ofFloat x).IsText 6 (coordinateText x)
  read : Decimal.read? (coordinateText x).toList = some y

/-- `m` is the location that the stored coordinates of `l` stand for. -/
structure Location.StoredAs (l m : Location) : Prop where
  latitude : CoordinateStoredAs l.latitude m.latitude
  longitude : CoordinateStoredAs l.longitude m.longitude

theorem exists_coordinateStoredAs (x : Float) : ∃ y, CoordinateStoredAs x y := by
  obtain ⟨y, hy⟩ := Option.isSome_iff_exists.mp (isSome_read?_coordinateText x)
  exact ⟨y, isText_fixed (by decide) x, hy⟩

theorem Location.exists_storedAs (l : Location) : ∃ m, l.StoredAs m := by
  obtain ⟨latitude, hlat⟩ := exists_coordinateStoredAs l.latitude
  obtain ⟨longitude, hlon⟩ := exists_coordinateStoredAs l.longitude
  exact ⟨⟨latitude, longitude⟩, hlat, hlon⟩

theorem readStep_stepText {l m : Location} (h : l.StoredAs m) (index : Nat) :
    readStep index (stepText l).toList = .ok m := by
  have hwords : words (stepText l).toList =
      [(coordinateText l.latitude).toList, (coordinateText l.longitude).toList] := by
    rw [toList_stepText]
    exact words_append (fun c hc => (mem_coordinateText hc).1)
      (fun c hc => (mem_coordinateText hc).1) isBlank_space (coordinateText_ne_nil _)
      (coordinateText_ne_nil _)
  simp only [readStep, hwords, readCoordinate, h.latitude.read, h.longitude.read]

theorem exists_readSteps (r : Route) (index : Nat) :
    ∃ s, readSteps index (r.map fun l => (stepText l).toList) = .ok s ∧
      List.Forall₂ Location.StoredAs r s := by
  induction r generalizing index with
  | nil => exact ⟨[], rfl, .nil⟩
  | cons l r ih =>
    obtain ⟨m, hm⟩ := l.exists_storedAs
    obtain ⟨s, hs, hstored⟩ := ih (index + 1)
    exact ⟨m :: s, by simp only [List.map_cons, readSteps, readStep_stepText hm, hs],
      .cons hm hstored⟩

/-- A route that is written reads back as its coordinates do. -/
theorem Route.exists_read_text (r : Route) :
    ∃ s, Route.read (Route.text r) = .ok s ∧ List.Forall₂ Location.StoredAs r s := by
  cases r with
  | nil => exact ⟨[], rfl, .nil⟩
  | cons l r =>
    have hlist : (Route.text (l :: r)).toList =
        [','].intercalate ((l :: r).map fun l => (stepText l).toList) := by
      rw [Route.text, String.toList_intercalate, List.map_map]
      rfl
    have hfields : split (· == ',') (Route.text (l :: r)).toList =
        (l :: r).map fun l => (stepText l).toList := by
      rw [hlist]
      refine split_intercalate (by decide) (by simp) ?_
      simp only [List.mem_map, toList_stepText]
      rintro cs ⟨l, -, rfl⟩ c hc
      rcases List.mem_append.mp hc with hc | hc
      · exact (mem_coordinateText hc).2
      · rcases List.mem_cons.mp hc with rfl | hc
        · rfl
        · exact (mem_coordinateText hc).2
    -- A blank text would read as the empty route.
    have hblank : ¬ (Route.text (l :: r)).toList.all isBlank := by
      obtain ⟨c, hc⟩ := List.exists_mem_of_ne_nil _ (coordinateText_ne_nil l.latitude)
      have hmem : c ∈ (Route.text (l :: r)).toList := by
        rw [hlist]
        cases r <;> simp [toList_stepText, List.intercalate_cons_cons, hc]
      intro hall
      exact absurd (List.all_eq_true.mp hall c hmem) (by simp [(mem_coordinateText hc).1])
    rw [Route.read, if_neg hblank, hfields]
    exact exists_readSteps (l :: r) 0

/-- A route that is written reads back with as many steps. -/
theorem Route.read_text (r : Route) :
    ∃ s, Route.read (Route.text r) = .ok s ∧ s.length = r.length := by
  obtain ⟨s, hs, hstored⟩ := Route.exists_read_text r
  exact ⟨s, hs, hstored.length_eq.symm⟩

end ScanFleet
