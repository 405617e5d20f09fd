import Mathlib.Algebra.Order.Field.Power
import Mathlib.Tactic.FieldSimp
import Mathlib.Tactic.Linarith
import Mathlib.Tactic.NormNum
import Mathlib.Tactic.Positivity
import Mathlib.Tactic.Ring
import ScanFleet.Decimal.Fixed

/-! Rounding of rational numbers to the nearest natural number, a tie going to the even one.  The
result is determined by the number, so it does not matter by which quotient it was computed. -/

namespace ScanFleet.Decimal

/-- `n` is nearest to `x`, and even if another natural number is just as near. -/
structure RoundsTo (x : ℚ) (n : ℕ) : Prop where
  close : |x - n| ≤ 1 / 2
  even : |x - n| = 1 / 2 → n % 2 = 0

namespace RoundsTo

variable {x : ℚ} {m n : ℕ}

theorem of_abs_lt (h : |x - n| < 1 / 2) : RoundsTo x n :=
  ⟨le_of_lt h, fun he => absurd he (ne_of_lt h)⟩

theorem natCast (n : ℕ) : RoundsTo n n := of_abs_lt (by simp)

theorem le_add (h : RoundsTo x n) : (n : ℚ) ≤ x + 1 / 2 := by
  have := (abs_le.mp h.close).1
  linarith

theorem sub_le (h : RoundsTo x n) : x - 1 / 2 ≤ (n : ℚ) := by
  have := (abs_le.mp h.close).2
  linarith

theorem not_lt (hm : RoundsTo x m) (hn : RoundsTo x n) : ¬ m < n := by
  intro hlt
  have hmx := (abs_le.mp hm.close).2
  have hnx := (abs_le.mp hn.close).1
  have hnm : n = m + 1 := by
    have hle : (n : ℚ) ≤ m + 1 := by linarith
    have : n ≤ m + 1 := by exact_mod_cast hle
    omega
  have hcast : (n : ℚ) = m + 1 := by rw [hnm]; push_cast; rfl
  -- Half-way between neighbours both would have to be even.
  have hx : x = m + 1 / 2 := by linarith
  have hmeven : m % 2 = 0 := hm.even (by rw [hx, add_sub_cancel_left]; norm_num)
  have hneven : n % 2 = 0 := hn.even (by rw [hx, hcast, abs_of_neg] <;> linarith)
  omega

theorem unique (hm : RoundsTo x m) (hn : RoundsTo x n) : m = n :=
  Nat.le_antisymm (Nat.le_of_not_lt (hn.not_lt hm)) (Nat.le_of_not_lt (hm.not_lt hn))

end RoundsTo

theorem roundsTo_roundHalfEven (num : ℕ) {den : ℕ} (hd : 0 < den) :
    RoundsTo (num / den) (roundHalfEven num den) := by
  have hdq : (0 : ℚ) < den := by exact_mod_cast hd
  have hsplit : (num : ℚ) / den = (num / den : ℕ) + ((num % den : ℕ) : ℚ) / den := by
    have hdiv : (den : ℚ) * (num / den : ℕ) + (num % den : ℕ) = num := by
      exact_mod_cast Nat.div_add_mod num den
    rw [← hdiv]
    field_simp
  have hrest : ((num % den : ℕ) : ℚ) / den * den = (num % den : ℕ) := by field_simp
  unfold roundHalfEven
  dsimp only
  split
  next hlow =>
    have hlow : 2 * ((num % den : ℕ) : ℚ) < den := by exact_mod_cast hlow
    refine .of_abs_lt ?_
    rw [hsplit, add_sub_cancel_left, abs_of_nonneg (by positivity), div_lt_iff₀ hdq]
    linarith
  next hlow =>
    split
    next hhigh =>
      have hhigh : (den : ℚ) < 2 * (num % den : ℕ) := by exact_mod_cast hhigh
      have hlt : ((num % den : ℕ) : ℚ) < den := by exact_mod_cast Nat.mod_lt num hd
      have hlt1 : ((num % den : ℕ) : ℚ) / den < 1 := (div_lt_one hdq).mpr hlt
      have hgt : 1 / 2 < ((num % den : ℕ) : ℚ) / den := by rw [lt_div_iff₀ hdq]; linarith
      refine .of_abs_lt ?_
      rw [hsplit, abs_lt]
      push_cast
      constructor <;> linarith
    next hhigh =>
      have htie : ((num % den : ℕ) : ℚ) / den = 1 / 2 := by
        have h2 : 2 * (num % den) = den := by omega
        have h2 : 2 * ((num % den : ℕ) : ℚ) = den := by exact_mod_cast h2
        rw [div_eq_iff (ne_of_gt hdq)]
        linarith
      have hmod : num / den % 2 = 0 ∨ num / den % 2 = 1 := by omega
      rw [hsplit, htie]
      constructor
      · rcases hmod with h | h <;> rw [h, abs_le] <;> push_cast <;> constructor <;> linarith
      · intro
        omega

/-! ### Powers -/

theorem cast_twoTo (n : ℕ) : (twoTo n : ℚ) = 2 ^ n := by
  change ((2 ^ n : ℕ) : ℚ) = 2 ^ n
  push_cast
  rfl

theorem cast_tenTo (n : ℕ) : (tenTo n : ℚ) = 10 ^ n := by
  change ((10 ^ n : ℕ) : ℚ) = 10 ^ n
  push_cast
  rfl

theorem twoTo_pos (n : ℕ) : 0 < twoTo n := Nat.two_pow_pos n

theorem tenTo_pos (n : ℕ) : 0 < tenTo n := Nat.pow_pos (by decide)

theorem two_zpow_pos (q : ℤ) : (0 : ℚ) < 2 ^ q := zpow_pos (by norm_num) q

/-- A power of two as a quotient of natural numbers. -/
theorem twoTo_div_twoTo (q : ℤ) : (twoTo q.toNat : ℚ) / twoTo (-q).toNat = 2 ^ q := by
  rw [cast_twoTo, cast_twoTo]
  obtain ⟨n, rfl | rfl⟩ := q.eq_nat_or_neg
  · simp
  · simp

/-- The units of the last place are the magnitude in such units, rounded. -/
theorem roundsTo_unitsOf (places m : ℕ) (q : ℤ) :
    RoundsTo (m * 2 ^ q * 10 ^ places) (unitsOf places m q) := by
  have h := roundsTo_roundHalfEven (m * tenTo places * twoTo q.toNat) (twoTo_pos (-q).toNat)
  have hx : ((m * tenTo places * twoTo q.toNat : ℕ) : ℚ) / twoTo (-q).toNat =
      m * 2 ^ q * 10 ^ places := by
    push_cast
    rw [mul_div_assoc, twoTo_div_twoTo, cast_tenTo]
    ring
  rwa [hx] at h

theorem unitsOf_eq {places m : ℕ} {q : ℤ} {u : ℕ} (h : RoundsTo (m * 2 ^ q * 10 ^ places) u) :
    unitsOf places m q = u := (roundsTo_unitsOf places m q).unique h

end ScanFleet.Decimal
