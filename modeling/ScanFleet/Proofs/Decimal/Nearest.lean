import Mathlib
import ScanFleet.Proofs.Decimal.Rounding

/-! The double nearest to a quotient.  Its last bit stands for the power of two that the size of the
quotient asks for, and its bits are those of the quotient rounded to that power.  The value that the
bits have is the rounded one, also where rounding carries into the next power of two. -/

namespace ScanFleet.Decimal

/-! ### The power of two of the last bit -/

theorem fits_iff (num : ℕ) {den : ℕ} (hd : 0 < den) (q : ℤ) :
    num * twoTo (-q).toNat < twoTo 53 * (den * twoTo q.toNat) ↔
      (num : ℚ) / den < 2 ^ 53 * 2 ^ q := by
  have hdq : (0 : ℚ) < den := by exact_mod_cast hd
  have hq : (0 : ℚ) < twoTo (-q).toNat := by exact_mod_cast twoTo_pos _
  rw [← twoTo_div_twoTo q, ← mul_div_assoc, div_lt_div_iff₀ hdq hq, ← Nat.cast_lt (α := ℚ)]
  push_cast
  rw [cast_twoTo 53]
  constructor <;> intro h <;> linarith

/-- A quotient lies within a factor of two of the quotient of the leading powers. -/
theorem div_mem_log2 {num den : ℕ} (hn : 0 < num) (hd : 0 < den) :
    (2 : ℚ) ^ ((num.log2 : ℤ) - den.log2 - 1) ≤ (num : ℚ) / den ∧
      (num : ℚ) / den < 2 ^ ((num.log2 : ℤ) - den.log2 + 1) := by
  have hdq : (0 : ℚ) < den := by exact_mod_cast hd
  have hnlow : (2 : ℚ) ^ (num.log2 : ℤ) ≤ num := by
    rw [zpow_natCast]
    exact_mod_cast Nat.log2_self_le (by omega)
  have hnhigh : (num : ℚ) < 2 ^ ((num.log2 : ℤ) + 1) := by
    rw [← Nat.cast_succ, zpow_natCast]
    exact_mod_cast Nat.lt_log2_self
  have hdlow : (2 : ℚ) ^ (den.log2 : ℤ) ≤ den := by
    rw [zpow_natCast]
    exact_mod_cast Nat.log2_self_le (by omega)
  have hdhigh : (den : ℚ) < 2 ^ ((den.log2 : ℤ) + 1) := by
    rw [← Nat.cast_succ, zpow_natCast]
    exact_mod_cast Nat.lt_log2_self
  constructor
  · rw [le_div_iff₀ hdq]
    calc (2 : ℚ) ^ ((num.log2 : ℤ) - den.log2 - 1) * den
        ≤ 2 ^ ((num.log2 : ℤ) - den.log2 - 1) * 2 ^ ((den.log2 : ℤ) + 1) :=
          mul_le_mul_of_nonneg_left (le_of_lt hdhigh) (le_of_lt (two_zpow_pos _))
      _ = 2 ^ (num.log2 : ℤ) := by rw [← zpow_add₀ (by norm_num)]; congr 1; ring
      _ ≤ num := hnlow
  · rw [div_lt_iff₀ hdq]
    calc (num : ℚ) < 2 ^ ((num.log2 : ℤ) + 1) := hnhigh
      _ = 2 ^ ((num.log2 : ℤ) - den.log2 + 1) * 2 ^ (den.log2 : ℤ) := by
          rw [← zpow_add₀ (by norm_num)]; congr 1; ring
      _ ≤ 2 ^ ((num.log2 : ℤ) - den.log2 + 1) * den :=
          mul_le_mul_of_nonneg_left hdlow (le_of_lt (two_zpow_pos _))

/-- The quotient `x` in units of `2 ^ q` needs 53 bits, or fewer if there is no lesser unit. -/
structure Scale (x : ℚ) (q : ℤ) : Prop where
  least : -1074 ≤ q
  lt : x < 2 ^ 53 * 2 ^ q
  le : q = -1074 ∨ 2 ^ 52 * 2 ^ q ≤ x

theorem Scale.max {x : ℚ} {q : ℤ} (hlow : 2 ^ 52 * 2 ^ q ≤ x) (hhigh : x < 2 ^ 53 * 2 ^ q) :
    Scale x (max q (-1074)) := by
  rcases le_total (-1074) q with h | h
  · rw [max_eq_left h]
    exact ⟨h, hhigh, .inr hlow⟩
  · rw [max_eq_right h]
    refine ⟨le_refl _, lt_of_lt_of_le hhigh ?_, .inl rfl⟩
    exact mul_le_mul_of_nonneg_left (zpow_le_zpow_right₀ (by norm_num) h) (by norm_num)

theorem two_pow_mul_zpow {n : ℕ} {q r : ℤ} (h : n + q = r) : (2 : ℚ) ^ n * 2 ^ q = 2 ^ r := by
  rw [← h, zpow_add₀ (by norm_num), zpow_natCast]

theorem scale_unitExponent {num den : ℕ} (hn : 0 < num) (hd : 0 < den) :
    Scale (num / den) (unitExponent num den) := by
  obtain ⟨hlow, hhigh⟩ := div_mem_log2 hn hd
  generalize hguess : (num.log2 : ℤ) - den.log2 - 53 = guess
  -- The leading powers leave two candidates, and the second one always fits.
  have hnext : (num : ℚ) / den < 2 ^ 53 * 2 ^ (guess + 1) := by
    rwa [two_pow_mul_zpow (r := (num.log2 : ℤ) - den.log2 + 1) (by omega)]
  by_cases hfits : (num : ℚ) / den < 2 ^ 53 * 2 ^ guess
  · have hq : unitExponent num den = max guess (-1074) := by
      simp only [unitExponent, hguess, fits_iff num hd, hfits, decide_true, if_true]
    rw [hq]
    refine .max ?_ hfits
    rwa [two_pow_mul_zpow (r := (num.log2 : ℤ) - den.log2 - 1) (by omega)]
  · have hq : unitExponent num den = max (guess + 1) (-1074) := by
      simp only [unitExponent, hguess, fits_iff num hd, hfits, hnext, decide_true, decide_false,
        if_true, Bool.false_eq_true, if_false]
    rw [hq]
    refine .max ?_ hnext
    rw [not_lt, two_pow_mul_zpow (r := 53 + guess) rfl] at hfits
    rwa [two_pow_mul_zpow (r := 53 + guess) (by omega)]

/-! ### The bits -/

/-- `m` units of `2 ^ q` as the bits below the sign, with a carry where `m` has 54 bits. -/
def bitsOf (m : ℕ) (q : ℤ) : ℕ := (q + 1074).toNat * twoTo 52 + m

/-- A count of units that rounding can give. -/
structure Mantissa (m : ℕ) (q : ℤ) : Prop where
  least : -1074 ≤ q
  le : m ≤ twoTo 53
  normal : q = -1074 ∨ twoTo 52 ≤ m

theorem Scale.mantissa {x : ℚ} {q : ℤ} {m : ℕ} (h : Scale x q) (hm : RoundsTo (x / 2 ^ q) m) :
    Mantissa m q := by
  have hq := two_zpow_pos q
  refine ⟨h.least, ?_, h.le.imp_right fun hle => ?_⟩
  · have hx : x / 2 ^ q < 2 ^ 53 := (div_lt_iff₀ hq).mpr h.lt
    have hlt : (m : ℚ) < twoTo 53 + 1 := by
      rw [cast_twoTo]
      linarith [hm.le_add]
    have : m < twoTo 53 + 1 := by exact_mod_cast hlt
    omega
  · have hx : 2 ^ 52 ≤ x / 2 ^ q := (le_div_iff₀ hq).mpr hle
    have hlt : (twoTo 52 : ℚ) < m + 1 := by
      rw [cast_twoTo]
      linarith [hm.sub_le]
    have : twoTo 52 < m + 1 := by exact_mod_cast hlt
    omega

theorem nearestBits_eq {num den : ℕ} (hn : 0 < num) (hd : 0 < den) :
    ∃ m q, Scale (num / den) q ∧ RoundsTo ((num : ℚ) / den / 2 ^ q) m ∧
      nearestBits num den = min (bitsOf m q) infinityBits := by
  refine ⟨roundHalfEven (num * twoTo (-(unitExponent num den)).toNat)
    (den * twoTo (unitExponent num den).toNat), unitExponent num den, scale_unitExponent hn hd, ?_,
    ?_⟩
  · have h := roundsTo_roundHalfEven (num * twoTo (-(unitExponent num den)).toNat)
      (Nat.mul_pos hd (twoTo_pos (unitExponent num den).toNat))
    convert h using 1
    rw [← twoTo_div_twoTo]
    push_cast
    rw [div_div_div_eq]
  · simp only [nearestBits, if_neg (Nat.ne_of_gt hn), bitsOf]

/-- The bits of a value below `2 ^ 1024` are not those of infinity. -/
theorem Mantissa.bitsOf_lt {m : ℕ} {q : ℤ} (h : Mantissa m q) (hlt : (m : ℚ) * 2 ^ q < 2 ^ 1024) :
    bitsOf m q < infinityBits := by
  obtain ⟨hleast, hle, hnormal⟩ := h
  have h52 : twoTo 52 = 4503599627370496 := rfl
  have h53 : twoTo 53 = 9007199254740992 := rfl
  have hsplit {n : ℕ} {r : ℤ} (hr : n + r = 1024) : (2 : ℚ) ^ 1024 = 2 ^ n * 2 ^ r := by
    rw [two_pow_mul_zpow hr, zpow_ofNat]
  simp only [bitsOf, infinityBits, h52, h53] at *
  rcases lt_or_ge q 972 with hq | hq
  · rcases lt_or_ge q 971 with hq' | hq'
    · omega
    · obtain rfl : q = 971 := by omega
      rw [hsplit (n := 53) (r := 971) rfl] at hlt
      have hm : (m : ℚ) < 2 ^ 53 := lt_of_mul_lt_mul_right hlt (le_of_lt (two_zpow_pos _))
      have : m < 2 ^ 53 := by exact_mod_cast hm
      omega
  · -- Every mantissa of so large a unit is past the limit.
    have hm : (2 : ℚ) ^ 52 ≤ m := by
      have : 2 ^ 52 ≤ m := by omega
      exact_mod_cast this
    have hbig : (2 : ℚ) ^ 52 * 2 ^ (972 : ℤ) ≤ m * 2 ^ q :=
      mul_le_mul hm (zpow_le_zpow_right₀ (by norm_num) hq) (le_of_lt (two_zpow_pos _))
        m.cast_nonneg
    rw [hsplit (n := 52) (r := 972) rfl] at hlt
    exact absurd hlt (not_lt.mpr hbig)

/-- The value with the bits of `m` units of `2 ^ q` is that many units. -/
theorem Mantissa.ofParts_bitsOf {m : ℕ} {q : ℤ} (h : Mantissa m q) (negative : Bool)
    (hlt : bitsOf m q < infinityBits) :
    ∃ m' q', Value.ofParts negative (bitsOf m q) = .finite negative m' q' ∧
      (m' : ℚ) * 2 ^ q' = m * 2 ^ q := by
  obtain ⟨hleast, hle, hnormal⟩ := h
  have h52 : twoTo 52 = 4503599627370496 := rfl
  have h53 : twoTo 53 = 9007199254740992 := rfl
  simp only [bitsOf, infinityBits, h52, h53, Value.ofParts] at *
  rcases Nat.lt_or_ge m 4503599627370496 with hm | hm
  · obtain rfl : q = -1074 := by omega
    refine ⟨m, -1074, ?_, rfl⟩
    rw [if_neg (by omega), if_pos (by omega)]
    exact congrArg₂ (Value.finite negative) (by omega) rfl
  · rcases Nat.lt_or_ge m 9007199254740992 with hm' | hm'
    · refine ⟨m, q, ?_, rfl⟩
      rw [if_neg (by omega), if_neg (by omega)]
      exact congrArg₂ (Value.finite negative) (by omega) (by omega)
    · obtain rfl : m = 9007199254740992 := by omega
      -- Half as many units of twice the size.
      refine ⟨4503599627370496, q + 1, ?_, ?_⟩
      · rw [if_neg (by omega), if_neg (by omega)]
        exact congrArg₂ (Value.finite negative) (by omega) (by omega)
      · rw [zpow_add₀ (by norm_num), zpow_one]
        push_cast
        ring

/-- What a finite double is made of. -/
theorem finite_ofParts {sign negative : Bool} {n m : ℕ} {q : ℤ} (hn : n < twoTo 63)
    (h : Value.ofParts sign n = .finite negative m q) :
    m < twoTo 53 ∧ -1074 ≤ q ∧ q ≤ 971 := by
  have h52 : twoTo 52 = 4503599627370496 := rfl
  have h53 : twoTo 53 = 9007199254740992 := rfl
  have h63 : twoTo 63 = 9223372036854775808 := rfl
  simp only [h52, h53, h63, Value.ofParts] at *
  split at h
  · split at h <;> cases h
  · split at h
    · cases h
      omega
    · cases h
      omega

/-! ### Doubles by their bits -/

open Float.Model in
/-- Bits up to those of infinity are the bits of a double. -/
theorem toBits_ofBits {b : UInt64} (h : b.toNat % twoTo 63 ≤ infinityBits) :
    (Float.ofBits b).toBits = b := by
  have hnumber : @UnpackedFloat.isNaNBits Format.binary64 b.toBitVec = false := by
    rw [UnpackedFloat.isNaNBits, decide_eq_false_iff_not]
    rintro ⟨hexp, hman⟩
    rw [UnpackedFloat.unpackExponent_def] at hexp
    have hexp := congrArg BitVec.toNat hexp
    simp [BitVec.extractLsb'_toNat, Nat.shiftRight_eq_div_pow] at hexp
    have hman : b.toNat % 4503599627370496 ≠ 0 := by
      intro hzero
      refine hman (BitVec.eq_of_toNat_eq ?_)
      rw [UnpackedFloat.unpackMantissa_def]
      simpa [BitVec.extractLsb'_toNat] using hzero
    have hinf : infinityBits = 9218868437227405312 := rfl
    have h63 : twoTo 63 = 9223372036854775808 := rfl
    rw [hinf, h63] at h
    omega
  -- This lemma is why all of Mathlib is imported: no single module of it leads to those on `Float`.
  have hpack := @UnpackedFloat.pack_unpack Format.binary64 b.toBitVec (by decide)
  rw [hnumber, if_neg (by decide)] at hpack
  exact UInt64.eq_of_toBitVec_eq hpack

theorem nearestBits_le (num den : ℕ) : nearestBits num den ≤ infinityBits := by
  unfold nearestBits
  split
  · exact Nat.zero_le _
  · exact Nat.min_le_right _ _

theorem ofFloat_nearest (negative : Bool) (num den : ℕ) :
    Value.ofFloat (nearest negative num den) =
      Value.ofParts negative (nearestBits num den) := by
  have hle := nearestBits_le num den
  have hinf : infinityBits = 9218868437227405312 := rfl
  have h63 : twoTo 63 = 9223372036854775808 := rfl
  have hnat : (UInt64.ofNat ((if negative then twoTo 63 else 0) + nearestBits num den)).toNat =
      (if negative then twoTo 63 else 0) + nearestBits num den := by
    rw [UInt64.toNat_ofNat']
    split <;> omega
  rw [h63] at hnat
  have hbits : (nearest negative num den).toBits.toNat =
      (if negative then 9223372036854775808 else 0) + nearestBits num den := by
    rw [nearest, toBits_ofBits] <;> rw [h63, hnat]
    split <;> omega
  simp only [Value.ofFloat, hbits, h63]
  cases negative with
  | false =>
    simp only [Bool.false_eq_true, if_false]
    exact congrArg₂ Value.ofParts (by simp; omega) (by omega)
  | true =>
    exact congrArg₂ Value.ofParts (by simp) (by simp; omega)

end ScanFleet.Decimal
