import Mathlib.Algebra.Order.Floor.Div
import Mathlib.Data.Int.CardIntervalMod
import Mathlib.Data.List.Range
import ScanFleet.Proofs.Area.Partition
import ScanFleet.Proofs.Keyed

/-! What a partition gives to each worker.  Where there are steps enough, the parts lie one after
the other, share no step, and are as long as the quotient of steps and workers rounded down or up,
the longer ones first.  Where there are more workers than steps, the workers take the steps in
turns.  The parts may be laid one by one in words of a machine: no sum or difference on the way
leaves the range of numbers up to the number of steps. -/

namespace ScanFleet

variable {steps workers : Nat}

/-! ### Sizes -/

theorem ceilDiv_eq (h : 0 < workers) (n : Nat) :
    n ⌈/⌉ workers = n / workers + if 0 < n % workers then 1 else 0 := by
  have hdiv := Nat.div_add_mod n workers
  have hmod := Nat.mod_lt n h
  rw [Nat.mul_comm] at hdiv
  rw [Nat.ceilDiv_eq_add_pred_div]
  split <;> refine Nat.div_eq_of_lt_le ?_ ?_ <;> simp only [Nat.add_mul, Nat.one_mul] <;> omega

/-- A quotient to which one is added for some remainders is rounded down or up. -/
theorem div_add_eq_or (h : 0 < workers) (n k : Nat) :
    (n / workers + if k < n % workers then 1 else 0) = n / workers ∨
      (n / workers + if k < n % workers then 1 else 0) = n ⌈/⌉ workers := by
  rw [ceilDiv_eq h]
  split
  next => exact .inr (by rw [if_pos (by omega)])
  next => exact .inl rfl

theorem Part.countP_contains (p : Part) (n : Nat) :
    (List.range n).countP p.contains = min n (p.last + 1) - min n p.start := by
  induction n with
  | zero => simp
  | succ n ih =>
    rw [List.range_succ, List.countP_append, ih, List.countP_singleton, Part.contains]
    simp only [Bool.and_eq_true, decide_eq_true_eq]
    split <;> omega

theorem Part.size_eq_countP {p : Part} (hle : p.start ≤ p.last) (hlt : p.last < steps) :
    p.size = (List.range steps).countP p.contains := by
  rw [countP_contains, Part.size]
  omega

/-! ### The parts of a partition -/

theorem getElem?_partition (h : 0 < steps) {i : Nat} {p : Part} :
    (partition steps workers)[i]? = some p ↔ i < workers ∧ p = part steps workers i := by
  rw [partition, if_neg (by omega), List.getElem?_map]
  by_cases hi : i < workers <;> simp [hi, eq_comm]

theorem length_partition (h : 0 < steps) : (partition steps workers).length = workers := by
  rw [partition, if_neg (by omega), List.length_map, List.length_range]

theorem mem_partition (h : 0 < steps) {p : Part} :
    p ∈ partition steps workers ↔ ∃ i < workers, p = part steps workers i := by
  simp only [List.mem_iff_getElem?, getElem?_partition h]

theorem countP_partition (h : 0 < steps) (k : Nat) :
    (partition steps workers).countP (·.contains k) =
      (List.range workers).countP fun i => (part steps workers i).contains k := by
  rw [partition, if_neg (by omega), List.countP_map]
  rfl

/-- Parts that cut a route evenly: one after the other from the first step to the last, each step in
one part, and the sizes the even share rounded up or, further on, down. -/
structure CutsEvenly (steps workers : Nat) (parts : List Part) : Prop where
  first : parts.head?.map (·.start) = some 0
  last : parts.getLast?.map (·.last) = some (steps - 1)
  consecutive : parts.IsChain fun p q => q.start = p.last + 1
  owners : ∀ k < steps, parts.countP (·.contains k) = 1
  sizes : ∀ p ∈ parts, p.size = steps / workers ∨ p.size = steps ⌈/⌉ workers
  longerFirst : parts.Pairwise fun p q => q.size ≤ p.size

/-- Parts of one step, which go round the route as often as there are workers for. -/
structure GoesRound (steps workers : Nat) (parts : List Part) : Prop where
  single : ∀ i p, parts[i]? = some p → p.start = i % steps ∧ p.last = i % steps
  owners : ∀ k < steps, parts.countP (·.contains k) = workers / steps ∨
    parts.countP (·.contains k) = workers ⌈/⌉ steps

theorem cutsEvenly_partition (hw : 0 < workers) (hle : workers ≤ steps) :
    CutsEvenly steps workers (partition steps workers) := by
  have hs : 0 < steps := by omega
  have hlist : partition steps workers = (List.range workers).map (part steps workers) :=
    if_neg (by omega)
  have hpart (i : Nat) : part steps workers i =
      ⟨partStart steps workers i, partStart steps workers (i + 1) - 1⟩ := if_pos hle
  constructor
  case first =>
    rw [List.head?_eq_getElem?, (getElem?_partition hs).mpr ⟨hw, rfl⟩, hpart, Option.map_some,
      partStart_zero]
  case last =>
    rw [List.getLast?_eq_getElem?, length_partition hs,
      (getElem?_partition hs).mpr ⟨Nat.sub_lt hw Nat.one_pos, rfl⟩, hpart, Option.map_some,
      Nat.sub_add_cancel hw, partStart_workers hw]
  case consecutive =>
    rw [hlist, List.isChain_map, List.isChain_range]
    intro i _
    have hlt := partStart_lt_succ hw hle i
    have hlast : partStart steps workers (i + 1) - 1 + 1 = partStart steps workers (i + 1) := by
      omega
    rw [hpart, hpart]
    exact hlast.symm
  case owners =>
    intro k hk
    rw [countP_partition hs]
    obtain ⟨i, hi, hc⟩ := exists_part_contains hw hk
    have hsome : 0 < (List.range workers).countP fun i => (part steps workers i).contains k :=
      List.countP_pos_iff.mpr ⟨i, List.mem_range.mpr hi, hc⟩
    have hone := Keyed.countP_le_one (p := fun i => (part steps workers i).contains k)
      (List.nodup_range (n := workers)) fun i _ j _ hi hj => eq_of_part_contains hle hi hj hw
    omega
  case sizes =>
    intro p hp
    obtain ⟨i, -, rfl⟩ := (mem_partition hs).mp hp
    rw [size_part hw hle]
    exact div_add_eq_or hw steps i
  case longerFirst =>
    rw [hlist, List.pairwise_map]
    refine List.pairwise_lt_range.imp fun {i j} hij => ?_
    rw [size_part hw hle, size_part hw hle]
    split <;> split <;> omega

theorem goesRound_partition (hs : 0 < steps) (hlt : steps < workers) :
    GoesRound steps workers (partition steps workers) := by
  have hpart (i : Nat) : part steps workers i = ⟨i % steps, i % steps⟩ :=
    if_neg (Nat.not_le.mpr hlt)
  constructor
  case single =>
    intro i p hp
    obtain ⟨-, rfl⟩ := (getElem?_partition hs).mp hp
    rw [hpart]
    exact ⟨rfl, rfl⟩
  case owners =>
    intro k hk
    have hcount : (partition steps workers).countP (·.contains k) =
        workers.count (· ≡ k [MOD steps]) := by
      rw [countP_partition hs, Nat.count]
      congr 1
      funext i
      rw [hpart, Part.contains, ← Bool.decide_and, decide_eq_decide, Nat.ModEq,
        Nat.mod_eq_of_lt hk]
      exact Nat.le_antisymm_iff.symm
    rw [hcount, Nat.count_modEq_card _ hs]
    exact div_add_eq_or hs workers (k % steps)

/-! ### Laying the parts in words of a machine -/

/-- The sum of two numbers, unless it is above the limit. -/
def addWithin? (limit a b : Nat) : Option Nat := if a + b ≤ limit then some (a + b) else none

/-- The difference of two numbers, unless it is negative. -/
def difference? (a b : Nat) : Option Nat := if b ≤ a then some (a - b) else none

theorem addWithin?_eq {limit a b : Nat} (h : a + b ≤ limit) :
    addWithin? limit a b = some (a + b) := if_pos h

theorem difference?_eq {a b : Nat} (h : b ≤ a) : difference? a b = some (a - b) := if_pos h

/-- The size of a part in words that hold numbers up to `limit`. -/
def Part.sizeWithin? (limit : Nat) (p : Part) : Option Nat :=
  (addWithin? limit p.last 1).bind (difference? · p.start)

/-- The next `left` parts from number `i` on, laid one after the other from the step `start` in
words that hold numbers up to `limit`. -/
def layParts? (limit steps workers : Nat) : Nat → Nat → Nat → Option (List Part)
  | 0, _, _ => some []
  | left + 1, i, start =>
    (addWithin? limit (steps / workers) (if i < steps % workers then 1 else 0)).bind fun size =>
      if size = 0 then
        (layParts? limit steps workers left (i + 1) start).map (⟨i % steps, i % steps⟩ :: ·)
      else
        (addWithin? limit start size).bind fun next =>
          (difference? next 1).bind fun last =>
            (layParts? limit steps workers left (i + 1) next).map (⟨start, last⟩ :: ·)

/-- The parts of the workers, laid in words that hold numbers up to `limit`. -/
def partitionWithin? (limit steps workers : Nat) : Option (List Part) :=
  if steps = 0 ∨ workers = 0 then some [] else layParts? limit steps workers workers 0 0

/-- A worker for whom there is a step has the steps up to the part of the next one. -/
theorem part_of_lt {i : Nat} (h : partStart steps workers i < partStart steps workers (i + 1)) :
    part steps workers i = ⟨partStart steps workers i, partStart steps workers (i + 1) - 1⟩ := by
  unfold part
  split
  next => rfl
  next hlt =>
    have hstart (j : Nat) : partStart steps workers j = min j steps := by
      rw [partStart, Nat.div_eq_of_lt (by omega), Nat.mod_eq_of_lt (by omega), Nat.mul_zero,
        Nat.zero_add]
    rw [hstart, hstart] at h
    rw [hstart, hstart, Nat.mod_eq_of_lt (by omega), Part.mk.injEq]
    omega

theorem layParts?_eq {limit : Nat} (hlimit : steps ≤ limit) (left i : Nat)
    (hi : i + left = workers) :
    layParts? limit steps workers left i (partStart steps workers i) =
      some ((List.range' i left).map (part steps workers)) := by
  induction left generalizing i with
  | zero => rfl
  | succ left ih =>
    have hw : 0 < workers := by omega
    have hrest := ih (i + 1) (by omega)
    have hend : partStart steps workers (i + 1) ≤ partStart steps workers workers :=
      partStart_le (by omega)
    have hsucc : partStart steps workers (i + 1) = partStart steps workers i +
        (steps / workers + if i < steps % workers then 1 else 0) := by
      rw [partStart_succ, Nat.add_assoc]
    rw [partStart_workers hw] at hend
    rw [layParts?, addWithin?_eq (by omega), Option.bind_some, List.range'_succ, List.map_cons]
    generalize steps / workers + (if i < steps % workers then 1 else 0) = size at hsucc
    split
    next hzero =>
      have hsame : partStart steps workers (i + 1) = partStart steps workers i := by omega
      have hlt : steps < workers := by
        by_contra hle
        have := partStart_lt_succ hw (Nat.le_of_not_lt hle) i
        omega
      rw [← hsame, hrest, part, if_neg (by omega)]
      rfl
    next =>
      rw [addWithin?_eq (by omega), Option.bind_some, ← hsucc, difference?_eq (by omega),
        Option.bind_some, hrest, part_of_lt (by omega)]
      rfl

theorem partitionWithin?_eq {limit : Nat} (hs : steps ≤ limit) :
    partitionWithin? limit steps workers = some (partition steps workers) := by
  unfold partitionWithin? partition
  by_cases hsteps : steps = 0
  · rw [if_pos (.inl hsteps), if_pos hsteps]
  · rw [if_neg hsteps]
    split
    next hnone => rw [hnone.resolve_left hsteps]; rfl
    next =>
      have hlaid := layParts?_eq hs workers 0 (Nat.zero_add workers)
      rw [partStart_zero] at hlaid
      rw [hlaid, List.range_eq_range']

theorem sizeWithin?_eq {limit : Nat} (hlimit : steps ≤ limit) {p : Part} (hle : p.start ≤ p.last)
    (hlt : p.last < steps) : p.sizeWithin? limit = some p.size := by
  rw [Part.sizeWithin?, addWithin?_eq (by omega), Option.bind_some, difference?_eq (by omega)]
  rfl

/-! ### The law of partitions -/

/-- Every worker has a part of the route with a step in it.  Steps enough are cut evenly, too few go
round, and words that hold the number of steps hold all sums and differences that it takes. -/
theorem partition_law (steps workers : Nat) :
    (0 < steps → 0 < workers →
      (partition steps workers).length = workers ∧
      (∀ p ∈ partition steps workers, p.start ≤ p.last ∧ p.last < steps ∧
        p.size = (List.range steps).countP p.contains) ∧
      (workers ≤ steps → CutsEvenly steps workers (partition steps workers)) ∧
      (steps < workers → GoesRound steps workers (partition steps workers))) ∧
    ∀ limit, steps ≤ limit →
      partitionWithin? limit steps workers = some (partition steps workers) ∧
      ∀ p ∈ partition steps workers, p.sizeWithin? limit = some p.size := by
  have hparts (hs : 0 < steps) (p : Part) (hp : p ∈ partition steps workers) :
      p.start ≤ p.last ∧ p.last < steps := by
    obtain ⟨i, hi, rfl⟩ := (mem_partition hs).mp hp
    exact ⟨part_start_le_last (by omega) i, part_last_lt hs hi⟩
  refine ⟨fun hs hw => ⟨length_partition hs, fun p hp => ?_, cutsEvenly_partition hw,
    goesRound_partition hs⟩, fun limit hlimit => ⟨partitionWithin?_eq hlimit, fun p hp => ?_⟩⟩
  · obtain ⟨hle, hlt⟩ := hparts hs p hp
    exact ⟨hle, hlt, Part.size_eq_countP hle hlt⟩
  · have hs : 0 < steps := by
      by_contra hzero
      rw [Nat.eq_zero_of_not_pos hzero, partition_zero_steps] at hp
      cases hp
    obtain ⟨hle, hlt⟩ := hparts hs p hp
    exact sizeWithin?_eq hlimit hle hlt

/-- Seven steps for three workers, two steps for five, and words that hold numbers up to seven. -/
theorem partition_law_sevenForThree :
    partition 7 3 = [⟨0, 2⟩, ⟨3, 4⟩, ⟨5, 6⟩] ∧ CutsEvenly 7 3 (partition 7 3) ∧
    (⟨3, 4⟩ : Part) ∈ partition 7 3 ∧
    Part.size ⟨3, 4⟩ = (List.range 7).countP (Part.contains ⟨3, 4⟩) ∧
    partition 2 5 = [⟨0, 0⟩, ⟨1, 1⟩, ⟨0, 0⟩, ⟨1, 1⟩, ⟨0, 0⟩] ∧ GoesRound 2 5 (partition 2 5) ∧
    partitionWithin? 7 7 3 = some (partition 7 3) ∧ Part.sizeWithin? 7 ⟨5, 6⟩ = some 2 := by
  obtain ⟨hseven, hwords⟩ := partition_law 7 3
  obtain ⟨-, hparts, heven, -⟩ := hseven (by decide) (by decide)
  obtain ⟨-, -, -, hround⟩ := (partition_law 2 5).1 (by decide) (by decide)
  obtain ⟨hlaid, hsizes⟩ := hwords 7 (by decide)
  exact ⟨by decide, heven (by decide), by decide, (hparts ⟨3, 4⟩ (by decide)).2.2, by decide,
    hround (by decide), hlaid, hsizes ⟨5, 6⟩ (by decide)⟩

end ScanFleet
