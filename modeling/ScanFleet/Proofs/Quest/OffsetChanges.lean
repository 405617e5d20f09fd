import ScanFleet.Area.Basic
import ScanFleet.Proofs.Quest.Slots
import ScanFleet.Time.Zone

/-! Quest scanning in a place whose clock is changed.  The day of a slot is known by its midnight,
which is found with the offset of the moment, so a day with two offsets has two midnights: when the
clock goes back over the earliest hour, scanning starts again.  It starts twice on one date only if
the offset changed in between. -/

namespace ScanFleet.Area

/-- How many seconds the clock of the area is ahead of UTC, where its hours ask for that. -/
def offsetAt? (a : Area) (services : Services) (now : Instant) : Option Int :=
  a.questProbe?.bind (services.offsetAt · now)

/-- The answers of an area that is asked again and again whether quest scanning starts. -/
def questAnswers (services : Services) : Area → List Instant → List Bool
  | _, [] => []
  | a, t :: calls =>
    (a.checkQuests services t).1 :: questAnswers services (a.checkQuests services t).2 calls

theorem questAnswers_eq (a : Area) (services : Services) (calls : List Instant) :
    a.questAnswers services calls = a.schedule.answers (a.offsetAt? services) calls := by
  induction calls generalizing a with
  | nil => rfl
  | cons t calls ih =>
    have hask : a.questProbe?.bind (services.offsetAt · t) = a.offsetAt? services t := rfl
    rw [questAnswers, Schedule.answers, ih, checkQuests, hask]
    cases ho : a.offsetAt? services t with
    | none => rfl
    | some offset =>
      have hprobe : { a with schedule := (a.schedule.check t offset).2 }.offsetAt? services =
          a.offsetAt? services := by
        rw [Schedule.check_snd]
        rfl
      simp only [hprobe]

/-- A call starts quest scanning exactly if it falls in the earliest hour, in a slot other than the
last one that was looked at.  Two starts on one date have a change of the offset between them. -/
theorem start_of_change (a : Area) (services : Services) {calls : List Instant}
    (hcalls : calls.Pairwise (· ≤ ·)) :
    let answers := a.questAnswers services calls
    let offsetAt? := a.offsetAt? services
    answers.length = calls.length ∧
    (∀ k t, calls[k]? = some t → (answers[k]? = some true ↔ ∃ offset, offsetAt? t = some offset ∧
      a.hours.earliest? = some (t.hour offset) ∧
      a.schedule.lastSlot offsetAt? (calls.take k) ≠ some (.at t offset))) ∧
    ∀ (i j : Nat) (t u : Instant) (o p : Int), i < j → calls[i]? = some t → calls[j]? = some u →
      answers[i]? = some true → answers[j]? = some true →
      offsetAt? t = some o → offsetAt? u = some p → t.date o = u.date p →
        ∃ (k : Nat) (v : Instant) (q : Int), i < k ∧ k ≤ j ∧ calls[k]? = some v ∧
          offsetAt? v = some q ∧ q ≠ o := by
  intro answers offsetAt?
  have hanswers : answers = a.schedule.answers offsetAt? calls := a.questAnswers_eq services calls
  rw [hanswers]
  refine ⟨a.schedule.length_answers calls, fun k t => a.schedule.answers_iff, ?_⟩
  intro i j t u o p hij ht hu hi hj ho hp hdate
  by_contra hsame
  have hstays : ∀ k v q, i < k → k ≤ j → calls[k]? = some v → offsetAt? v = some q → q = o :=
    fun k v q hik hkj hv hq => by
      by_contra hne
      exact hsame ⟨k, v, q, hik, hkj, hv, hq, hne⟩
  obtain rfl := hstays j u p hij (Nat.le_refl j) hu hp
  obtain ⟨_, ho', hour, -⟩ := (a.schedule.answers_iff ht).mp hi
  obtain ⟨_, hp', hour', hnew⟩ := (a.schedule.answers_iff hu).mp hj
  cases ho.symm.trans ho'
  cases hp.symm.trans hp'
  have hslot : LocalHour.at t p = .at u p :=
    LocalHour.at_eq_iff.mpr ⟨hdate, Option.some.inj (hour.symm.trans hour')⟩
  exact hnew (a.schedule.lastSlot_take hcalls hij ht hu ho
    (fun k v q hik hkj => hstays k v q hik (Nat.le_of_lt hkj)) hslot)

/-- An area in Vienna where quest scanning starts at two o'clock. -/
def atTwo : Area :=
  { (default : Area) with questRoute := [default], schedule := .new (.ofList [2]) }

def viennaClock : Services :=
  { Services.none with offsetAt := fun _ now => some (Zone.vienna.offset now) }

/-- The clock goes back from three to two between the second and the third call; the fourth call is
on the next day. -/
def nightOfTwoTwos : List Instant :=
  [1729987800000, 1729989600000, 1729992000000, 1730079000000]

theorem start_of_change_twoTwos :
    nightOfTwoTwos.Pairwise (· ≤ ·) ∧
    nightOfTwoTwos.map (atTwo.offsetAt? viennaClock) =
      [some 7200, some 7200, some 3600, some 3600] ∧
    atTwo.questAnswers viennaClock nightOfTwoTwos = [true, false, true, true] ∧
    ∃ (k : Nat) (v : Instant) (q : Int), 0 < k ∧ k ≤ 2 ∧ nightOfTwoTwos[k]? = some v ∧
      atTwo.offsetAt? viennaClock v = some q ∧ q ≠ 7200 := by
  have hcalls : nightOfTwoTwos.Pairwise (· ≤ ·) := by decide
  have hanswers : atTwo.questAnswers viennaClock nightOfTwoTwos = [true, false, true, true] := by
    decide +kernel
  refine ⟨hcalls, by decide +kernel, hanswers, ?_⟩
  refine (atTwo.start_of_change viennaClock hcalls).2.2 0 2 1729987800000 1729992000000 7200 3600
    (by decide) rfl rfl (by rw [hanswers]; rfl) (by rw [hanswers]; rfl) ?_ ?_ ?_ <;>
  decide +kernel

/-- Half past two comes twice on the last Sunday of October, and scanning starts both times. -/
theorem start_twice :
    ¬ ∀ (a : Area) (services : Services) (calls : List Instant), calls.Pairwise (· ≤ ·) →
      ∀ (i j : Nat) (t u : Instant) (o p : Int), i < j →
        calls[i]? = some t → calls[j]? = some u →
        a.offsetAt? services t = some o → a.offsetAt? services u = some p → t.date o = u.date p →
        ¬ ((a.questAnswers services calls)[i]? = some true ∧
          (a.questAnswers services calls)[j]? = some true) := by
  intro h
  refine h atTwo viennaClock [1729989000000, 1729992600000] (by decide) 0 1 _ _ 7200 3600
    (by decide) rfl rfl ?_ ?_ ?_ ⟨?_, ?_⟩ <;>
  decide +kernel

end ScanFleet.Area
