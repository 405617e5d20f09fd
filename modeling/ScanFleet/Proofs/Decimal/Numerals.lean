import Mathlib.Data.List.TakeWhile
import ScanFleet.Decimal.Numeral
import ScanFleet.Proofs.Decimal.Rounding

/-! Doubles that are written with a fixed number of places and read as numerals.  What is written of
a finite double is the count of units of the last place nearest to it, and that count is what is
read. -/

namespace ScanFleet

namespace Text

/-! ### Digits -/

/-- Digits are read as the number that they are the digits of. -/
theorem digitsFrom_eq {cs : List Char} (h : ∀ c ∈ cs, c.isDigit) (n : Nat) :
    digitsFrom 10 n cs = some (Nat.ofDigitChars 10 cs n) := by
  induction cs generalizing n with
  | nil => rfl
  | cons c cs ih =>
    rw [List.forall_mem_cons] at h
    have hc : '0' ≤ c ∧ c ≤ '9' := by simpa [Char.isDigit, Char.le_def] using h.1
    have hlt : c.toNat - 48 < 10 := by
      have : c.toNat ≤ 57 := hc.2
      omega
    simp [digitsFrom, digitIn?, hc, hlt, ih h.2, Nat.ofDigitChars_cons, Nat.mul_comm]

theorem natural?_eq {cs : List Char} (hne : cs ≠ []) (h : ∀ c ∈ cs, c.isDigit) :
    natural? cs = some (Nat.ofDigitChars 10 cs 0) := by
  cases cs with
  | nil => exact absurd rfl hne
  | cons c cs => exact digitsFrom_eq h 0

theorem isDigit_padded (width n : Nat) : ∀ c ∈ (padded width n).toList, c.isDigit := by
  intro c hc
  simp only [padded, String.toList_ofList, List.mem_append, List.mem_replicate] at hc
  rcases hc with ⟨-, rfl⟩ | hc
  · rfl
  · exact Nat.isDigit_of_mem_toDigits (by omega) (by omega) hc

theorem ofDigitChars_padded (width n : Nat) :
    Nat.ofDigitChars 10 (padded width n).toList 0 = n := by
  rw [padded, String.toList_ofList, Nat.ofDigitChars_append, Nat.ofDigitChars_replicate_zero,
    Nat.mul_zero, Nat.ofDigitChars_ten_toDigits]

theorem length_padded {width n : Nat} (hw : 0 < width) (hn : n < Decimal.tenTo width) :
    (padded width n).toList.length = width := by
  have := (Nat.length_toDigits_le_iff (by decide) hw).mpr hn
  simp only [padded, String.toList_ofList, List.length_append, List.length_replicate]
  omega

theorem toList_toString (n : Nat) : (toString n).toList = Nat.toDigits 10 n := by
  rw [Nat.toString_eq_repr, Nat.repr_eq_ofList_toDigits, String.toList_ofList]

theorem isDigit_toDigits (n : Nat) : ∀ c ∈ Nat.toDigits 10 n, c.isDigit := fun _ =>
  Nat.isDigit_of_mem_toDigits (by omega) (by omega)

end Text

namespace Decimal

open Text

/-! ### Numerals -/

theorem splitAt_append {c : Char} {cs ds : List Char} (h : ∀ d ∈ cs, d ≠ c) :
    splitAt c (cs ++ c :: ds) = some (cs, ds) := by
  induction cs with
  | nil => simp [splitAt]
  | cons d cs ih =>
    rw [List.forall_mem_cons] at h
    simp [splitAt, h.1, ih h.2]

/-- Digits around a point are a numeral. -/
theorem unsigned?_point {cs ds : List Char} (hne : cs ≠ []) (hcs : ∀ c ∈ cs, c.isDigit)
    (hds : ∀ c ∈ ds, c.isDigit) :
    unsigned? (cs ++ '.' :: ds) = some ⟨Nat.ofDigitChars 10 (cs ++ ds) 0, -(ds.length : Int)⟩ := by
  have hpoint : ∀ c ∈ cs, c ≠ '.' := by
    rintro c hc rfl
    exact absurd (hcs _ hc) (by decide)
  have hmark : ∀ c ∈ cs ++ '.' :: ds, (c != 'e' && c != 'E') = true := by
    intro c hc
    have hdigit : c = '.' ∨ c.isDigit := by
      rcases List.mem_append.mp hc with hc | hc
      · exact .inr (hcs c hc)
      · exact (List.mem_cons.mp hc).imp_right (hds c)
    rw [Bool.and_eq_true, bne_iff_ne, bne_iff_ne]
    rcases hdigit with rfl | hdigit
    · decide
    · constructor <;> rintro rfl <;> exact absurd hdigit (by decide)
  have hnatural : natural? (cs ++ ds) = some (Nat.ofDigitChars 10 (cs ++ ds) 0) :=
    natural?_eq (by simp [hne]) fun c hc => (List.mem_append.mp hc).elim (hcs c) (hds c)
  unfold unsigned?
  dsimp only
  -- Without an exponent mark the whole text is the mantissa.
  rw [List.takeWhile_eq_self_iff.mpr hmark, List.drop_length]
  dsimp only
  rw [mantissa?, splitAt_append hpoint]
  simp [hnatural]

/-- A text with a point is none of the words for special values. -/
theorem magnitude?_point (negative : Bool) (cs ds : List Char) :
    magnitude? negative (cs ++ '.' :: ds) =
      (unsigned? (cs ++ '.' :: ds)).map (·.toFloat negative) := by
  have hmem : '.' ∈ (cs ++ '.' :: ds).map Char.toLower :=
    List.mem_map.mpr ⟨'.', by simp, by decide⟩
  have hword (w : List Char) (hw : '.' ∉ w) : (cs ++ '.' :: ds).map Char.toLower ≠ w := by
    rintro rfl
    exact hw hmem
  unfold magnitude?
  dsimp only
  rw [if_neg, if_neg]
  · exact hword _ (by decide)
  · rintro (h | h)
    · exact hword _ (by decide) h
    · exact hword _ (by decide) h

theorem toList_withPoint (places units : Nat) :
    (withPoint places units).toList =
      Nat.toDigits 10 (units / tenTo places) ++
        '.' :: (padded places (units % tenTo places)).toList := by
  rw [withPoint, String.toList_append, String.toList_append, toList_toString, List.append_assoc]
  rfl

/-- The text of a value with so many decimal places.  A finite value is rounded to units of the last
place, a tie to the even count; the count is written in digits with a point before the last places
and a sign in front if the value is negative. -/
inductive Value.IsText (places : Nat) : Value → String → Prop
  | nan : IsText places .nan "NaN"
  | infinite (negative : Bool) :
      IsText places (.infinite negative) (if negative then "-inf" else "inf")
  | finite {negative : Bool} {m units : Nat} {q : Int} {fraction : List Char}
      (hrounds : RoundsTo (m * 2 ^ q * 10 ^ places) units) (hlength : fraction.length = places)
      (hdigits : ∀ c ∈ fraction, c.isDigit)
      (hfraction : Nat.ofDigitChars 10 fraction 0 = units % 10 ^ places) :
      IsText places (.finite negative m q)
        (String.ofList ((if negative then ['-'] else []) ++
          Nat.toDigits 10 (units / 10 ^ places) ++ '.' :: fraction))

theorem isText_fixed {places : Nat} (hp : 0 < places) (x : Float) :
    (Value.ofFloat x).IsText places (fixed places x) := by
  unfold fixed
  split
  next hx => exact hx ▸ .nan
  next negative hx => exact hx ▸ .infinite negative
  next negative m q hx =>
    have hlt : unitsOf places m q % tenTo places < tenTo places := Nat.mod_lt _ (tenTo_pos places)
    have htext : (if negative then "-" else "") ++ withPoint places (unitsOf places m q) =
        String.ofList ((if negative then ['-'] else []) ++
          Nat.toDigits 10 (unitsOf places m q / 10 ^ places) ++
            '.' :: (padded places (unitsOf places m q % tenTo places)).toList) := by
      rw [← String.toList_inj, String.toList_append, toList_withPoint, String.toList_ofList,
        List.append_assoc]
      cases negative <;> rfl
    rw [hx, htext]
    exact .finite (roundsTo_unitsOf places m q) (length_padded hp hlt) (isDigit_padded _ _)
      (ofDigitChars_padded _ _)

/-- What is written with a point reads as the units that were written. -/
theorem unsigned?_withPoint {places : Nat} (hp : 0 < places) (units : Nat) :
    unsigned? (withPoint places units).toList = some ⟨units, -(places : Int)⟩ := by
  have hlt : units % tenTo places < tenTo places := Nat.mod_lt _ (Nat.pow_pos (by decide))
  rw [toList_withPoint, unsigned?_point Nat.toDigits_ne_nil (isDigit_toDigits _)
    (isDigit_padded _ _), length_padded hp hlt, Nat.ofDigitChars_append,
    Nat.ofDigitChars_ten_toDigits, Nat.ofDigitChars_eq_ofDigitChars_zero, length_padded hp hlt,
    ofDigitChars_padded]
  have hdiv : 10 ^ places * (units / tenTo places) + units % tenTo places = units :=
    Nat.div_add_mod units (10 ^ places)
  rw [hdiv]

theorem read?_of_isDigit {c : Char} (h : c.isDigit) (cs : List Char) :
    read? (c :: cs) = magnitude? false (c :: cs) := by
  unfold read?
  split
  next heq => cases heq; exact absurd h (by decide)
  next heq => cases heq; exact absurd h (by decide)
  next => rfl

theorem read?_withPoint {places : Nat} (hp : 0 < places) (negative : Bool) (units : Nat) :
    read? ((if negative then "-" else "") ++ withPoint places units).toList =
      some (Numeral.toFloat ⟨units, -(places : Int)⟩ negative) := by
  have hmagnitude : magnitude? negative (withPoint places units).toList =
      some (Numeral.toFloat ⟨units, -(places : Int)⟩ negative) := by
    rw [toList_withPoint, magnitude?_point, ← toList_withPoint, unsigned?_withPoint hp,
      Option.map_some]
  rw [String.toList_append]
  cases negative with
  | true => exact hmagnitude
  | false =>
    rw [toList_withPoint] at hmagnitude ⊢
    have hdigits := isDigit_toDigits (units / tenTo places)
    cases hw : Nat.toDigits 10 (units / tenTo places) with
    | nil => exact absurd hw Nat.toDigits_ne_nil
    | cons c cs =>
      rw [hw] at hmagnitude hdigits
      exact (read?_of_isDigit (hdigits c List.mem_cons_self) _).trans hmagnitude

/-- A double that is written with a fixed number of places is a numeral. -/
theorem isSome_read?_fixed {places : Nat} (hp : 0 < places) (x : Float) :
    (read? (fixed places x).toList).isSome := by
  unfold fixed
  split
  · decide
  · split <;> decide
  · rw [read?_withPoint hp]
    rfl

/-- The characters of a written double that are not digits. -/
def marks : List Char := "-.NaNinf".toList

/-- A character of a written double. -/
theorem mem_fixed {places : Nat} {x : Float} {c : Char} (h : c ∈ (fixed places x).toList) :
    c.isDigit ∨ marks.contains c := by
  unfold fixed at h
  split at h
  · have hnan : "NaN".toList.all marks.contains := by decide
    exact .inr (List.all_eq_true.mp hnan c h)
  next negative _ =>
    have hinf : (if negative then "-inf" else "inf").toList.all marks.contains := by
      cases negative <;> decide
    exact .inr (List.all_eq_true.mp hinf c h)
  next negative m q _ =>
    rw [String.toList_append, toList_withPoint, List.mem_append, List.mem_append,
      List.mem_cons] at h
    rcases h with h | h | rfl | h
    · right
      cases negative
      · cases h
      · rw [List.mem_singleton.mp h]
        decide
    · exact .inl (isDigit_toDigits _ c h)
    · exact .inr (by decide)
    · exact .inl (isDigit_padded _ _ c h)

end Decimal

end ScanFleet
