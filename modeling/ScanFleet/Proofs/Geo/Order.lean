import Mathlib.Algebra.Order.Group.Int
import Mathlib.Data.Prod.Lex
import ScanFleet.Geo.Fence

/-! The order of coordinates.  Those that are numbers are ordered as their places are, by sign,
exponent and mantissa; one that is not a number has no place and is beside all others.  So the
lesser of two coordinates is at most a third one when one of the two is, and the same goes for the
greater. -/

namespace ScanFleet

open Float.Model

/-- A place among the numbers: the sign, which also tells infinity, and then the exponent and the
mantissa, both of which are turned round below zero. -/
abbrev NumberPlace := Int ×ₗ Int ×ₗ Int

def placeOf? : UnpackedFloat → Option NumberPlace
  | .notANumber => none
  | .infinity .negative => some (toLex (-2, toLex (0, 0)))
  | .finite .negative mantissa exponent _ => some (toLex (-1, toLex (-exponent, -mantissa)))
  | .zero _ => some (toLex (0, toLex (0, 0)))
  | .finite .positive mantissa exponent _ => some (toLex (1, toLex (exponent, mantissa)))
  | .infinity .positive => some (toLex (2, toLex (0, 0)))

theorem compare_natCast (m n : Nat) : compare (m : Int) n = compare m n := by
  simp only [compare, compareOfLessAndEq, Int.ofNat_lt, Int.ofNat_inj]

theorem compare_neg (a b : Int) : compare (-a) (-b) = (compare a b).swap := by
  rw [show compare a b = (compare b a).swap from Std.OrientedCmp.eq_swap]
  simp [compare, compareOfLessAndEq, eq_comm]

theorem compare_toLex (sign e d m n : Int) :
    compare (toLex (sign, toLex (e, m))) (toLex (sign, toLex (d, n))) =
      (compare e d).then (compare m n) := by
  have hsign : compare sign sign = .eq := Std.ReflCmp.compare_self
  rw [Prod.Lex.compare_def]
  change (compare sign sign).then (compare (toLex (e, m)) (toLex (d, n))) = _
  rw [hsign, Prod.Lex.compare_def]
  rfl

theorem compare_eq_compare_place (u v : UnpackedFloat) :
    u.compare v = (placeOf? u).bind fun a => (placeOf? v).map (compare a) := by
  rcases u with (_ | _) | _ | _ | ⟨_ | _, m, e, hm⟩ <;>
    rcases v with (_ | _) | _ | _ | ⟨_ | _, n, d, hn⟩ <;> try rfl
  -- Two numbers of one sign are left; the signs tell all others apart.
  case finite.negative.finite.negative =>
    have hplaces := compare_toLex (-1) (-e) (-d) (-m) (-n)
    rw [compare_neg, compare_neg, compare_natCast, ← Ordering.swap_then] at hplaces
    exact congrArg some hplaces.symm
  case finite.positive.finite.positive =>
    have hplaces := compare_toLex 1 e d m n
    rw [compare_natCast] at hplaces
    exact congrArg some hplaces.symm

namespace Coordinate

/-- The place of a coordinate. -/
def place? (x : Float) : Option NumberPlace := placeOf? x.toModel.unpack

variable {x y z : Float}

theorem isNaN_iff : x.isNaN ↔ place? x = none := by
  change UnpackedFloat.isNaN _ = true ↔ _
  unfold place?
  rcases x.toModel.unpack with (_ | _) | _ | _ | ⟨_ | _, m, e, hm⟩
  case notANumber => exact ⟨fun _ => rfl, fun _ => rfl⟩
  all_goals exact ⟨nofun, nofun⟩

theorem le_iff : x ≤ y ↔ ∃ a b, place? x = some a ∧ place? y = some b ∧ a ≤ b := by
  have h : x ≤ y ↔ UnpackedFloat.le x.toModel.unpack y.toModel.unpack := by
    change Float.le x y = true ↔ _
    exact decide_eq_true_iff
  rw [h, UnpackedFloat.le, compare_eq_compare_place, place?, place?]
  cases placeOf? x.toModel.unpack <;> cases placeOf? y.toModel.unpack <;>
    simp [← Ordering.ne_gt_iff_isLE, compare_le_iff_le]

theorem lt_iff : x < y ↔ ∃ a b, place? x = some a ∧ place? y = some b ∧ a < b := by
  have h : x < y ↔ UnpackedFloat.lt x.toModel.unpack y.toModel.unpack := by
    change Float.lt x y = true ↔ _
    exact decide_eq_true_iff
  rw [h, UnpackedFloat.lt, compare_eq_compare_place, place?, place?]
  cases placeOf? x.toModel.unpack <;> cases placeOf? y.toModel.unpack <;>
    simp [compare_lt_iff_lt]

theorem le_of_lt (h : x < y) : x ≤ y := by
  obtain ⟨a, b, ha, hb, hab⟩ := lt_iff.mp h
  exact le_iff.mpr ⟨a, b, ha, hb, hab.le⟩

theorem le_trans (h : x ≤ y) (h' : y ≤ z) : x ≤ z := by
  obtain ⟨a, b, ha, hb, hab⟩ := le_iff.mp h
  obtain ⟨b', c, hb', hc, hbc⟩ := le_iff.mp h'
  cases hb.symm.trans hb'
  exact le_iff.mpr ⟨a, c, ha, hc, hab.trans hbc⟩

theorem not_isNaN_of_le (h : x ≤ y) : ¬ x.isNaN ∧ ¬ y.isNaN := by
  obtain ⟨a, b, ha, hb, -⟩ := le_iff.mp h
  rw [isNaN_iff, isNaN_iff, ha, hb]
  exact ⟨nofun, nofun⟩

theorem le_of_not_lt (hx : ¬ x.isNaN) (hy : ¬ y.isNaN) (h : ¬ x < y) : y ≤ x := by
  rw [isNaN_iff] at hx hy
  obtain ⟨a, ha⟩ := Option.ne_none_iff_exists'.mp hx
  obtain ⟨b, hb⟩ := Option.ne_none_iff_exists'.mp hy
  exact le_iff.mpr ⟨b, a, hb, ha, not_lt.mp fun hlt => h (lt_iff.mpr ⟨a, b, ha, hb, hlt⟩)⟩

end Coordinate

open Coordinate

theorem lesser_le_iff {a b x : Float} : lesser a b ≤ x ↔ a ≤ x ∨ b ≤ x := by
  unfold lesser
  split
  next h =>
    refine ⟨.inl, fun hx => hx.elim id fun hb => ?_⟩
    rw [Bool.or_eq_true, decide_eq_true_eq] at h
    have hlt := h.resolve_right (not_isNaN_of_le hb).1
    exact le_trans (le_of_lt hlt) hb
  next h =>
    refine ⟨.inr, fun hx => hx.elim (fun ha => ?_) id⟩
    rw [Bool.or_eq_true, decide_eq_true_eq, not_or] at h
    exact le_trans (le_of_not_lt (not_isNaN_of_le ha).1 h.2 h.1) ha

theorem le_greater_iff {a b x : Float} : x ≤ greater a b ↔ x ≤ a ∨ x ≤ b := by
  unfold greater
  split
  next h =>
    refine ⟨.inl, fun hx => hx.elim id fun hb => ?_⟩
    rw [Bool.or_eq_true, decide_eq_true_eq] at h
    have hlt := h.resolve_right (not_isNaN_of_le hb).2
    exact le_trans hb (le_of_lt hlt)
  next h =>
    refine ⟨.inr, fun hx => hx.elim (fun ha => ?_) id⟩
    rw [Bool.or_eq_true, decide_eq_true_eq, not_or] at h
    exact le_trans ha (le_of_not_lt h.2 (not_isNaN_of_le ha).2 h.1)

end ScanFleet
