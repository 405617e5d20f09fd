import Mathlib.Data.List.Count
import ScanFleet.Session.Usage

/-! Counts of messages against the messages themselves.  Counting a list of messages adds to each
kind as many as the list holds of it, so the ceilings are passed when one of the kinds occurs too
often in all that was counted. -/

namespace ScanFleet

theorem lookup_cons_ite (k key value : Nat) (l : List (Nat × Nat)) :
    ((key, value) :: l).lookup k = if k = key then some value else l.lookup k := by
  rw [List.lookup_cons]
  by_cases h : k = key
  · rw [h, beq_self_eq_true, if_pos rfl]
  · rw [beq_eq_false_iff_ne.mpr h, if_neg h]

theorem lookup_setCount (key value k : Nat) (l : List (Nat × Nat)) :
    (setCount key value l).lookup k = if k = key then some value else l.lookup k := by
  induction l with
  | nil => exact lookup_cons_ite k key value []
  | cons p rest ih =>
    obtain ⟨key', value'⟩ := p
    rw [setCount]
    split
    next h =>
      rw [lookup_cons_ite, lookup_cons_ite, h]
      split <;> rfl
    next h =>
      rw [lookup_cons_ite, lookup_cons_ite, ih]
      by_cases hk : k = key'
      · rw [if_pos hk, if_pos hk, if_neg (by rw [hk]; exact h)]
      · rw [if_neg hk, if_neg hk]

namespace Usage

@[simp] theorem count_zero (kind : MessageType) : Usage.zero.count kind = 0 := rfl

theorem count_increment (u : Usage) (added kind : MessageType) :
    (u.increment added).count kind = u.count kind + if kind = added then 1 else 0 := by
  rw [increment, count, lookup_setCount]
  by_cases h : kind = added
  · subst h
    simp
  · simp [h, count]

theorem count_record (u : Usage) (kinds : List MessageType) (kind : MessageType) :
    (u.record kinds).count kind = u.count kind + kinds.count kind := by
  induction kinds generalizing u with
  | nil => rfl
  | cons added kinds ih =>
    have hstep : u.record (added :: kinds) = (u.increment added).record kinds := rfl
    rw [hstep, ih, count_increment, List.count_cons]
    by_cases h : kind = added
    · subst h
      simp
      omega
    · have hne : ¬ added = kind := fun he => h he.symm
      simp [h, hne]

end Usage

namespace UsageLimits

/-- Some kind of message with a ceiling above zero occurs in a log more often than that. -/
def Exceeded (l : UsageLimits) (log : List MessageType) : Prop :=
  ∃ c ∈ l.ceilings, 0 < c.2 ∧ c.2 < log.count c.1

instance (l : UsageLimits) (log : List MessageType) : Decidable (l.Exceeded log) :=
  inferInstanceAs (Decidable (∃ c ∈ l.ceilings, 0 < c.2 ∧ c.2 < log.count c.1))

theorem not_exceeded_nil (l : UsageLimits) : ¬ l.Exceeded [] := by
  rintro ⟨c, -, -, hc⟩
  simp at hc

theorem exceededBy_iff {l : UsageLimits} {u : Usage} {log : List MessageType}
    (h : ∀ kind, u.count kind = log.count kind) : l.exceededBy u ↔ l.Exceeded log := by
  simp only [exceededBy, List.any_eq_true, Bool.and_eq_true, decide_eq_true_eq, h, Exceeded]

end UsageLimits

end ScanFleet
