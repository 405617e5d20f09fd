import Mathlib.Order.Basic
import ScanFleet.Area.Part

/-! The parts of a route.  Every part lies on the route and has a step, and every step of the route
is in some part. -/

namespace ScanFleet

variable {steps workers : Nat}

theorem partStart_zero (steps workers : Nat) : partStart steps workers 0 = 0 := by
  simp [partStart]

theorem partStart_succ (steps workers i : Nat) :
    partStart steps workers (i + 1) =
      partStart steps workers i + steps / workers + if i < steps % workers then 1 else 0 := by
  simp only [partStart, Nat.add_mul, Nat.one_mul]
  split <;> omega

theorem partStart_workers (h : 0 < workers) : partStart steps workers workers = steps := by
  have hmod := Nat.mod_lt steps h
  have hdiv := Nat.div_add_mod steps workers
  rw [partStart, Nat.min_eq_right (Nat.le_of_lt hmod)]
  exact hdiv

theorem partStart_lt_succ (h : 0 < workers) (hle : workers ≤ steps) (i : Nat) :
    partStart steps workers i < partStart steps workers (i + 1) := by
  have hq : 0 < steps / workers := Nat.div_pos hle h
  rw [partStart_succ]
  omega

theorem partStart_le {i j : Nat} (hij : i ≤ j) :
    partStart steps workers i ≤ partStart steps workers j := by
  induction hij with
  | refl => exact Nat.le_refl _
  | step _ ih =>
    refine Nat.le_trans ih ?_
    rw [partStart_succ, Nat.add_assoc]
    exact Nat.le_add_right _ _

theorem part_start_le_last (h : 0 < workers) (i : Nat) :
    (part steps workers i).start ≤ (part steps workers i).last := by
  unfold part
  split
  next hle => have := partStart_lt_succ h hle i; simp only; omega
  next => exact Nat.le_refl _

theorem part_last_lt (hs : 0 < steps) {i : Nat} (hi : i < workers) :
    (part steps workers i).last < steps := by
  unfold part
  split
  next hle =>
    have hend : partStart steps workers (i + 1) ≤ partStart steps workers workers :=
      partStart_le hi
    have hpos := partStart_lt_succ (by omega) hle i
    rw [partStart_workers (by omega)] at hend
    simp only
    omega
  next => exact Nat.mod_lt i hs

/-- A step before the start of part `m` is in a part before that one. -/
theorem exists_partStart {m k : Nat} (hk : k < partStart steps workers m) :
    ∃ i < m, partStart steps workers i ≤ k ∧ k < partStart steps workers (i + 1) := by
  induction m with
  | zero => rw [partStart_zero] at hk; omega
  | succ m ih =>
    by_cases hm : k < partStart steps workers m
    · obtain ⟨i, hi, h⟩ := ih hm
      exact ⟨i, by omega, h⟩
    · exact ⟨m, by omega, by omega, hk⟩

/-- Every step of the route is in the part of some worker. -/
theorem exists_part_contains (h : 0 < workers) {k : Nat} (hk : k < steps) :
    ∃ i < workers, (part steps workers i).contains k := by
  by_cases hle : workers ≤ steps
  · have hend : k < partStart steps workers workers := by rw [partStart_workers h]; exact hk
    obtain ⟨i, hi, hlow, hhigh⟩ := exists_partStart hend
    refine ⟨i, hi, ?_⟩
    simp only [part, if_pos hle, Part.contains, Bool.and_eq_true, decide_eq_true_eq]
    omega
  · refine ⟨k, by omega, ?_⟩
    simp [part, hle, Part.contains, Nat.mod_eq_of_lt hk]

/-- The parts differ by one step at most, and the longer ones come first. -/
theorem size_part (h : 0 < workers) (hle : workers ≤ steps) (i : Nat) :
    (part steps workers i).size = steps / workers + if i < steps % workers then 1 else 0 := by
  have hlt := partStart_lt_succ h hle i
  have hsucc := partStart_succ steps workers i
  rw [part, if_pos hle, Part.size]
  dsimp only
  omega

/-- No two of the parts share a step unless there are more workers than steps. -/
theorem eq_of_part_contains {i j k : Nat} (hle : workers ≤ steps)
    (hi : (part steps workers i).contains k) (hj : (part steps workers j).contains k)
    (hw : 0 < workers) : i = j := by
  have hspan (m : Nat) (hm : (part steps workers m).contains k) :
      partStart steps workers m ≤ k ∧ k < partStart steps workers (m + 1) := by
    have hlt := partStart_lt_succ hw hle m
    simp only [part, if_pos hle, Part.contains, Bool.and_eq_true, decide_eq_true_eq] at hm
    omega
  obtain ⟨hilow, hihigh⟩ := hspan i hi
  obtain ⟨hjlow, hjhigh⟩ := hspan j hj
  have hmono (m n : Nat) (h : m + 1 ≤ n) :
      partStart steps workers (m + 1) ≤ partStart steps workers n := partStart_le h
  by_contra hne
  rcases Nat.lt_or_gt_of_ne hne with h | h
  · have := hmono i j h; omega
  · have := hmono j i h; omega

end ScanFleet
