import ScanFleet.Proofs.Decimal.Nearest
import ScanFleet.Proofs.Decimal.Numerals

/-! Doubles that are written with a fixed number of places, read, and written again.  The second
text is the first one.  Where the last place is coarser than the last bit of the double that is
read, that double is so near to the text that it rounds to it.  Where the last place is finer, the
text is so near to the double that was written that this very double is read. -/

namespace ScanFleet.Decimal

/-- A power of ten is no power of two. -/
theorem ten_pow_mul_two_zpow_ne_one {places : ℕ} (hp : 0 < places) (q : ℤ) :
    (10 : ℚ) ^ places * 2 ^ q ≠ 1 := by
  intro h
  have hq : (10 : ℚ) ^ places = 2 ^ (-q) := by
    rw [zpow_neg]
    exact eq_inv_of_mul_eq_one_left h
  have hneg : 0 ≤ -q := by
    by_contra hlt
    have hone : (1 : ℚ) ≤ 10 ^ places := one_le_pow₀ (by norm_num)
    have hless : (2 : ℚ) ^ (-q) < 1 := zpow_lt_one_of_neg₀ (by norm_num) (by omega)
    linarith
  obtain ⟨n, hn⟩ := Int.eq_ofNat_of_zero_le hneg
  rw [hn] at hq
  have hnat : 10 ^ places = 2 ^ n := by exact_mod_cast hq
  have hfive : 5 ∣ 2 ^ n := hnat ▸ dvd_pow (by decide : 5 ∣ 10) (by omega)
  exact absurd (Nat.prime_five.dvd_of_dvd_pow hfive) (by decide)

/-- A double that is not more than half a unit `2 ^ q` below a quotient with this unit is a multiple
of the unit. -/
theorem Scale.le_of_near {x : ℚ} {q p : ℤ} {m : ℕ} (h : Scale x q) (hm : m < twoTo 53)
    (hleast : -1074 ≤ p) (hnear : x < m * 2 ^ p + 2 ^ q / 2) : q ≤ p := by
  rcases h.le with hq | hle
  · omega
  · by_contra hlt
    have hm : (m : ℚ) + 1 ≤ 2 ^ 53 := by
      rw [← cast_twoTo]
      exact_mod_cast hm
    have hstep : (2 : ℚ) ^ p ≤ 2 ^ (q - 1) := zpow_le_zpow_right₀ (by norm_num) (by omega)
    have hhalf : (2 : ℚ) ^ (q - 1) * 2 = 2 ^ q := by
      rw [← zpow_add_one₀ (by norm_num)]
      congr 1
      omega
    have hprod : (m : ℚ) * 2 ^ p ≤ (2 ^ 53 - 1) * 2 ^ (q - 1) :=
      mul_le_mul (by linarith) hstep (le_of_lt (two_zpow_pos p)) (by norm_num)
    -- The largest double with a lesser unit is half a unit short of the least one with this unit.
    have hshort : (2 ^ 53 - 1) * (2 : ℚ) ^ (q - 1) + 2 ^ q / 2 = 2 ^ 52 * 2 ^ q := by
      rw [← hhalf]
      ring
    linarith

variable {places : ℕ}

/-- Units of a last place that is coarser than the unit of the double next to them. -/
theorem rewrites_of_coarse {u m : ℕ} {q : ℤ} (hcoarse : (10 : ℚ) ^ places * 2 ^ q < 1)
    (hm : RoundsTo (u / 10 ^ places / 2 ^ q) m) : RoundsTo (m * 2 ^ q * 10 ^ places) u := by
  have hunit := two_zpow_pos q
  have hten : (0 : ℚ) < 10 ^ places := by positivity
  refine .of_abs_lt ?_
  have hdist : (m : ℚ) * 2 ^ q * 10 ^ places - u =
      -((u / 10 ^ places / 2 ^ q - m) * (10 ^ places * 2 ^ q)) := by
    field_simp
    ring
  rw [hdist, abs_neg, abs_mul, abs_of_pos (mul_pos hten hunit)]
  calc |(u : ℚ) / 10 ^ places / 2 ^ q - m| * (10 ^ places * 2 ^ q)
      ≤ 1 / 2 * (10 ^ places * 2 ^ q) :=
        mul_le_mul_of_nonneg_right hm.close (le_of_lt (mul_pos hten hunit))
    _ < 1 / 2 := by linarith

/-- Units of a last place that is finer than the unit of the double next to them: that double is the
one that was written. -/
theorem eq_of_fine {u m k : ℕ} {q p : ℤ} (hfine : 1 < (10 : ℚ) ^ places * 2 ^ q)
    (hu : RoundsTo (k * 2 ^ p * 10 ^ places) u) (hk : k < twoTo 53) (hp : -1074 ≤ p)
    (hscale : Scale (u / 10 ^ places) q) (hm : RoundsTo (u / 10 ^ places / 2 ^ q) m) :
    (m : ℚ) * 2 ^ q = k * 2 ^ p := by
  have hunit := two_zpow_pos q
  have hten : (0 : ℚ) < 10 ^ places := by positivity
  have hdist : |(u : ℚ) / 10 ^ places - k * 2 ^ p| < 2 ^ q / 2 := by
    have hsplit : (u : ℚ) / 10 ^ places - k * 2 ^ p =
        -((k * 2 ^ p * 10 ^ places - u) / 10 ^ places) := by
      field_simp
      ring
    rw [hsplit, abs_neg, abs_div, abs_of_pos hten, div_lt_iff₀ hten]
    calc |(k : ℚ) * 2 ^ p * 10 ^ places - u| ≤ 1 / 2 := hu.close
      _ < 2 ^ q / 2 * 10 ^ places := by linarith
  have hle : q ≤ p := hscale.le_of_near hk hp (by linarith [(abs_lt.mp hdist).2])
  -- So the double that was written is a whole number of units, and the nearest one to the text.
  have hwhole : (k : ℚ) * 2 ^ p = (k * 2 ^ (p - q).toNat : ℕ) * 2 ^ q := by
    have hpow : (2 : ℚ) ^ p = 2 ^ (p - q).toNat * 2 ^ q := by
      rw [two_pow_mul_zpow (r := p) (by omega)]
    rw [hpow]
    push_cast
    ring
  have hk' : RoundsTo ((u : ℚ) / 10 ^ places / 2 ^ q) (k * 2 ^ (p - q).toNat) := by
    refine .of_abs_lt ?_
    have hsplit : (u : ℚ) / 10 ^ places / 2 ^ q - (k * 2 ^ (p - q).toNat : ℕ) =
        (u / 10 ^ places - k * 2 ^ p) / 2 ^ q := by
      rw [hwhole]
      field_simp
    rw [hsplit, abs_div, abs_of_pos hunit, div_lt_iff₀ hunit]
    linarith
  rw [hm.unique hk', hwhole]

/-- A mantissa of 53 bits with the greatest unit is still below the limit of doubles. -/
theorem mul_two_zpow_lt {k : ℕ} {p : ℤ} (hk : k < twoTo 53) (hp : p ≤ 971) :
    (k : ℚ) * 2 ^ p < 2 ^ 1024 := by
  have hk : (k : ℚ) < 2 ^ 53 := by
    rw [← cast_twoTo]
    exact_mod_cast hk
  calc (k : ℚ) * 2 ^ p < 2 ^ 53 * 2 ^ p := mul_lt_mul_of_pos_right hk (two_zpow_pos p)
    _ ≤ 2 ^ 53 * 2 ^ (971 : ℤ) :=
      mul_le_mul_of_nonneg_left (zpow_le_zpow_right₀ (by norm_num) hp) (by norm_num)
    _ = 2 ^ 1024 := by rw [two_pow_mul_zpow (r := 1024) rfl, zpow_ofNat]

/-- The double that is nearest to what was written of a finite double is written alike. -/
theorem unitsOf_nearest (hp : 0 < places) {k : ℕ} {p : ℤ} (hk : k < twoTo 53) (hleast : -1074 ≤ p)
    (hgreatest : p ≤ 971) (hu : 0 < unitsOf places k p) (negative : Bool) :
    ∃ m q, Value.ofFloat (nearest negative (unitsOf places k p) (tenTo places)) =
      .finite negative m q ∧ unitsOf places m q = unitsOf places k p := by
  obtain ⟨m, q, hscale, hm, hbits⟩ := nearestBits_eq hu (tenTo_pos places)
  rw [cast_tenTo] at hscale hm
  have hrounds := roundsTo_unitsOf places k p
  have hmantissa := hscale.mantissa hm
  have hvalue : (m : ℚ) * 2 ^ q < 2 ^ 1024 ∧
      RoundsTo (m * 2 ^ q * 10 ^ places) (unitsOf places k p) := by
    rcases lt_or_gt_of_ne (ten_pow_mul_two_zpow_ne_one hp q) with hcoarse | hfine
    · refine ⟨?_, rewrites_of_coarse hcoarse hm⟩
      have hone : (1 : ℚ) ≤ 10 ^ places := one_le_pow₀ (by norm_num)
      have hunit : (2 : ℚ) ^ q < 1 := by
        have := mul_le_mul_of_nonneg_right hone (le_of_lt (two_zpow_pos q))
        linarith
      have hle : (m : ℚ) ≤ 2 ^ 53 := by
        rw [← cast_twoTo]
        exact_mod_cast hmantissa.le
      calc (m : ℚ) * 2 ^ q ≤ 2 ^ 53 * 1 :=
            mul_le_mul hle (le_of_lt hunit) (le_of_lt (two_zpow_pos q)) (by norm_num)
        _ < 2 ^ 1024 := by
          rw [mul_one]
          exact pow_lt_pow_right₀ (by norm_num) (by norm_num)
    · rw [eq_of_fine hfine hrounds hk hleast hscale hm]
      exact ⟨mul_two_zpow_lt hk hgreatest, hrounds⟩
  have hlt := hmantissa.bitsOf_lt hvalue.1
  obtain ⟨m', q', hparts, heq⟩ := hmantissa.ofParts_bitsOf negative hlt
  refine ⟨m', q', ?_, unitsOf_eq ?_⟩
  · rw [ofFloat_nearest, hbits, Nat.min_eq_left (le_of_lt hlt), hparts]
  · rw [heq]
    exact hvalue.2

/-! ### Texts -/

theorem unitsOf_lt {k : ℕ} {p : ℤ} (hk : k < twoTo 53) (hp : p ≤ 971) (places : ℕ) :
    unitsOf places k p < 10 ^ (places + 400) := by
  have hlimit : 2 ^ 1024 + 1 ≤ 10 ^ 400 := by
    rw [show 1024 = 64 * 16 from rfl, show 400 = 25 * 16 from rfl, pow_mul, pow_mul]
    exact Nat.succ_le_of_lt (Nat.pow_lt_pow_left (by norm_num) (by decide))
  have hlimit : (2 : ℚ) ^ 1024 + 1 ≤ 10 ^ 400 := by exact_mod_cast hlimit
  have hone : (1 : ℚ) ≤ 10 ^ places := one_le_pow₀ (by norm_num)
  have hvalue := mul_two_zpow_lt hk hp
  generalize (2 : ℚ) ^ 1024 = limit at hlimit hvalue
  have hlt : (unitsOf places k p : ℚ) < 10 ^ (places + 400) := by
    calc (unitsOf places k p : ℚ) ≤ k * 2 ^ p * 10 ^ places + 1 / 2 :=
          (roundsTo_unitsOf places k p).le_add
      _ < limit * 10 ^ places + 1 * 10 ^ places := by
          have := mul_lt_mul_of_pos_right hvalue (lt_of_lt_of_le one_pos hone)
          linarith
      _ = (limit + 1) * 10 ^ places := by ring
      _ ≤ 10 ^ 400 * 10 ^ places := mul_le_mul_of_nonneg_right hlimit (by positivity)
      _ = 10 ^ (places + 400) := by rw [pow_add, mul_comm]
  exact_mod_cast hlt

/-- Units of so few places are not cut off before they are read. -/
theorem toFloat_units (hp : 0 < places) (hle : places ≤ 400) {units : ℕ} (hu : 0 < units)
    (hlt : units < 10 ^ (places + 400)) (negative : Bool) :
    Numeral.toFloat ⟨units, -(places : ℤ)⟩ negative = nearest negative units (tenTo places) := by
  have hsize := (Nat.length_toDigits_le_iff (by decide) (by omega)).mpr hlt
  have hpos : 0 < (Nat.toDigits 10 units).length := Nat.length_toDigits_pos
  have hten : units * tenTo 0 = units := Nat.mul_one units
  simp only [Numeral.toFloat, if_neg (Nat.ne_of_gt hu)]
  rw [if_neg (by omega), if_neg (by omega), show (-(places : ℤ)).toNat = 0 by omega, hten, neg_neg,
    Int.toNat_natCast]

theorem toFloat_zero (e : ℤ) (negative : Bool) :
    Numeral.toFloat ⟨0, e⟩ negative = nearest negative 0 1 := rfl

theorem fixed_of_finite {x : Float} {negative : Bool} {m : ℕ} {q : ℤ}
    (h : Value.ofFloat x = .finite negative m q) (places : ℕ) :
    fixed places x = (if negative then "-" else "") ++ withPoint places (unitsOf places m q) := by
  rw [fixed, h]

theorem ofFloat_notANumber : Value.ofFloat notANumber = .nan := by decide

theorem ofFloat_infinity (negative : Bool) :
    Value.ofFloat (infinity negative) = .infinite negative := by
  cases negative <;> decide

theorem ofFloat_zero (negative : Bool) :
    Value.ofFloat (nearest negative 0 1) = .finite negative 0 (-1074) := by
  rw [ofFloat_nearest]
  rfl

/-- The text of a finite double is the text of the double that is read from it. -/
theorem exists_read?_finite (hp : 0 < places) (hle : places ≤ 400) (negative : Bool) {k : ℕ}
    {p : ℤ} (hk : k < twoTo 53) (hleast : -1074 ≤ p) (hgreatest : p ≤ 971) :
    ∃ y, read? ((if negative then "-" else "") ++ withPoint places (unitsOf places k p)).toList =
        some y ∧
      fixed places y = (if negative then "-" else "") ++ withPoint places (unitsOf places k p) := by
  refine ⟨_, read?_withPoint hp negative _, ?_⟩
  rcases Nat.eq_zero_or_pos (unitsOf places k p) with hu | hu
  · rw [hu, toFloat_zero, fixed_of_finite (ofFloat_zero negative)]
    rw [unitsOf_eq (u := 0)]
    simpa using RoundsTo.natCast 0
  · rw [toFloat_units hp hle hu (unitsOf_lt hk hgreatest places)]
    obtain ⟨m, q, hvalue, hunits⟩ := unitsOf_nearest hp hk hleast hgreatest hu negative
    rw [fixed_of_finite hvalue, hunits]

/-- A double that is read from the text of a double has the same text. -/
theorem fixed_of_read?_fixed (hp : 0 < places) (hle : places ≤ 400) {x y : Float}
    (h : read? (fixed places x).toList = some y) : fixed places y = fixed places x := by
  have hread (text : String) (z : Float) (hz : read? text.toList = some z)
      (hx : fixed places x = text) (htext : fixed places z = text) :
      fixed places y = fixed places x := by
    rw [hx, hz] at h
    rw [hx, ← Option.some.inj h, htext]
  cases hx : Value.ofFloat x with
  | nan =>
    refine hread "NaN" notANumber (by decide) ?_ ?_
    · rw [fixed, hx]
    · rw [fixed, ofFloat_notANumber]
  | infinite negative =>
    refine hread (if negative then "-inf" else "inf") (infinity negative) ?_ ?_ ?_
    · cases negative <;> decide
    · rw [fixed, hx]
    · rw [fixed, ofFloat_infinity]
  | finite negative k p =>
    have hbits : x.toBits.toNat % twoTo 63 < twoTo 63 := Nat.mod_lt _ (twoTo_pos 63)
    obtain ⟨hk, hleast, hgreatest⟩ := finite_ofParts hbits hx
    obtain ⟨z, hz, htext⟩ := exists_read?_finite hp hle negative hk hleast hgreatest
    exact hread _ z hz (fixed_of_finite hx places) htext

end ScanFleet.Decimal
