import Mathlib.Logic.Function.Basic
import ScanFleet.Time.Calendar

/-! The calendar numbers the days: the date of a day leads back to that day, so no two days have one
date, before 1970 as after it. -/

namespace ScanFleet

namespace Date

/-- A day of a cycle of 400 years lies in the year that is found for it. -/
theorem yearOfCycle_bounds {n y : Int} (h0 : 0 ≤ n) (h1 : n < 146097)
    (hy : (n - n / 1460 + n / 36524 - n / 146096) / 365 = y) :
    0 ≤ y ∧ y < 400 ∧ 365 * y + y / 4 - y / 100 ≤ n ∧ n < 365 * y + y / 4 - y / 100 + 366 := by
  generalize hc : n / 36524 = c at hy
  generalize hz : y / 100 = z
  -- With the centuries known, what remains is linear.
  have hcentury : c = 0 ∨ c = 1 ∨ c = 2 ∨ c = 3 ∨ c = 4 := by omega
  have hyear : z = 0 ∨ z = 1 ∨ z = 2 ∨ z = 3 := by omega
  refine ⟨by omega, by omega, ?_, ?_⟩
  · rcases hcentury with rfl | rfl | rfl | rfl | rfl <;>
      rcases hyear with rfl | rfl | rfl | rfl <;> omega
  · rcases hcentury with rfl | rfl | rfl | rfl | rfl <;>
      rcases hyear with rfl | rfl | rfl | rfl <;> omega

/-- The number of a date of the cycle `c` and the year `y` in it, with months counted from March. -/
theorem toDays_mk {c y m k : Int} (hy : 0 ≤ y) (hy' : y < 400) (hm : 0 ≤ m) (hm' : m < 12)
    (hk : 0 < k) :
    toDays ⟨if m < 10 then y + c * 400 else y + c * 400 + 1,
        (if m < 10 then m + 3 else m - 9).toNat, k.toNat⟩ =
      c * 146097 + 365 * y + y / 4 - y / 100 + (153 * m + 2) / 5 + k - 1 - 719468 := by
  have hcycle : (y + c * 400) / 400 = c := by omega
  have hyear : (y + c * 400) % 400 = y := by omega
  have hday : (k.toNat : Int) = k := Int.toNat_of_nonneg (Int.le_of_lt hk)
  unfold toDays
  by_cases h : m < 10
  · have hmonth : ((m + 3).toNat : Int) = m + 3 := Int.toNat_of_nonneg (by omega)
    have hlate : ¬ (m + 3).toNat ≤ 2 := by omega
    simp only [h, if_true, hlate, if_false, hmonth, hcycle, hyear, hday, Int.add_sub_cancel]
    omega
  · have hmonth : ((m - 9).toNat : Int) = m - 9 := Int.toNat_of_nonneg (by omega)
    have hearly : (m - 9).toNat ≤ 2 := by omega
    simp only [h, if_false, hearly, if_true, hmonth, hday, Int.add_sub_cancel, hcycle, hyear,
      Int.sub_add_cancel]
    omega

theorem toDays_ofDays (days : Int) : (ofDays days).toDays = days := by
  unfold ofDays
  dsimp only
  generalize hc : (days + 719468) / 146097 = c
  generalize hn : (days + 719468) % 146097 = n
  generalize hy : (n - n / 1460 + n / 36524 - n / 146096) / 365 = y
  obtain ⟨h0, h400, hfirst, hlast⟩ := yearOfCycle_bounds (by omega) (by omega) hy
  generalize hd : n - (365 * y + y / 4 - y / 100) = d
  generalize hm : (5 * d + 2) / 153 = m
  rw [toDays_mk h0 h400 (by omega) (by omega) (by omega)]
  omega

theorem ofDays_injective : Function.Injective ofDays :=
  Function.LeftInverse.injective toDays_ofDays

end Date

/-- The date on a clock that runs `offset` seconds ahead of UTC. -/
def Instant.date (t : Instant) (offset : Int) : Date := .ofDays (t.day offset)

theorem Instant.date_eq_iff {t u : Instant} {o p : Int} :
    t.date o = u.date p ↔ t.day o = u.day p :=
  Date.ofDays_injective.eq_iff

/-- The days of the leap year 1968, and the turns of the years 2000 and 2001. -/
example : [-672, -671, 10957, 11322, 11323].map Date.ofDays =
    [⟨1968, 2, 29⟩, ⟨1968, 3, 1⟩, ⟨2000, 1, 1⟩, ⟨2000, 12, 31⟩, ⟨2001, 1, 1⟩] := by decide

end ScanFleet
