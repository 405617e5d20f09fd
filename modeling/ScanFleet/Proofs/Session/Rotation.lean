import ScanFleet.Fleet.Workers
import ScanFleet.Proofs.Session.Parts

/-! Rotations.  After a cut the workers of an area take turns in any order, each along its own part.
As many turns of one worker as its part has steps scan every step of the part once, wherever the
worker began, and no part is longer than the others by more than one step.  So when everyone has had
the turns of a fair share, the whole route was scanned.  A worker that has a part takes a turn
whenever it asks for a job of the route. -/

namespace ScanFleet

/-! ### One worker -/

namespace Walk

/-- The steps that come in the next turns. -/
def steps : Walk → Nat → List Nat
  | _, 0 => []
  | w, n + 1 => w.step :: w.advance.steps n

theorem length_steps (w : Walk) (n : Nat) : (w.steps n).length = n := by
  induction n generalizing w with
  | zero => rfl
  | succ n ih => rw [steps, List.length_cons, ih]

theorem prefix_steps (w : Walk) {m n : Nat} (h : m ≤ n) : w.steps m <+: w.steps n := by
  induction m generalizing w n with
  | zero => exact List.nil_prefix
  | succ m ih =>
    obtain ⟨n, rfl⟩ := Nat.exists_eq_add_of_lt h
    exact (List.prefix_cons_inj w.step).mpr (ih w.advance (by omega))

theorem part_advance (w : Walk) : w.advance.part = w.part := rfl

theorem contains_of_mem_steps {w : Walk} (h : w.Within) {n k : Nat} (hk : k ∈ w.steps n) :
    w.part.contains k := by
  induction n generalizing w with
  | zero => cases hk
  | succ n ih =>
    rcases List.mem_cons.mp hk with rfl | hk
    · simpa [Part.contains, Within] using h
    · exact ih (w := w.advance) h.advance hk

/-- A walk goes on to the end of its part and then from the start. -/
theorem steps_to_end {w : Walk} (h : w.Within) {m : Nat} (hm : w.step + m = w.part.last + 1)
    (n : Nat) :
    w.steps (m + n) = List.range' w.step m ++ steps { w with step := w.part.start } n := by
  induction m generalizing w with
  | zero => have := h.2; omega
  | succ m ih =>
    rw [Nat.add_right_comm, steps, List.range'_succ, List.cons_append]
    -- A turn keeps `w.step + m`, so the part ends just when `m` is used up.
    by_cases hlast : w.part.last ≤ w.step
    · have hzero : m = 0 := by omega
      have hstart : w.advance = { w with step := w.part.start } := by rw [advance, if_pos hlast]
      rw [hzero, hstart, Nat.zero_add]
      rfl
    · have hnext : w.advance.step = w.step + 1 := by rw [advance, if_neg hlast]
      rw [ih h.advance (by rw [part_advance]; omega), hnext]
      rfl

theorem steps_within {w : Walk} {m : Nat} (hm : w.step + m ≤ w.part.last + 1) :
    w.steps m = List.range' w.step m := by
  induction m generalizing w with
  | zero => rfl
  | succ m ih =>
    cases m with
    | zero => rfl
    | succ m =>
      have hnext : w.advance.step = w.step + 1 := by rw [advance, if_neg (by omega)]
      rw [List.range'_succ, steps, ih (by rw [part_advance]; omega), hnext]

/-- One round scans every step of the part once. -/
theorem perm_steps_size {w : Walk} (h : w.Within) :
    (w.steps w.part.size).Perm (List.range' w.part.start w.part.size) := by
  obtain ⟨hlow, hhigh⟩ := h
  have hsize : w.part.size = (w.part.last + 1 - w.step) + (w.step - w.part.start) := by
    unfold Part.size; omega
  -- A round begins in the middle of the part, so it is the part in two pieces, the last one first.
  have hround : w.steps w.part.size =
      List.range' w.step (w.part.last + 1 - w.step) ++
        List.range' w.part.start (w.step - w.part.start) := by
    rw [hsize, steps_to_end ⟨hlow, hhigh⟩ (by omega), steps_within (by dsimp only; omega)]
  have hrange : List.range' w.part.start w.part.size =
      List.range' w.part.start (w.step - w.part.start) ++
        List.range' w.step (w.part.last + 1 - w.step) := by
    have hstep : w.step = w.part.start + (w.step - w.part.start) := by omega
    conv => rhs; arg 2; rw [hstep]
    rw [List.range'_append_1]
    congr 1
    omega
  rw [hround, hrange]
  exact List.perm_append_comm

/-- Consecutive steps of a walk are the steps of the walk from some later turn on. -/
theorem exists_of_infix_steps {w : Walk} (h : w.Within) {n : Nat} {l : List Nat}
    (hl : l <:+: w.steps n) : ∃ v : Walk, v.Within ∧ v.part = w.part ∧ l = v.steps l.length := by
  induction n generalizing w with
  | zero =>
    obtain rfl := List.infix_nil.mp hl
    exact ⟨w, h, rfl, rfl⟩
  | succ n ih =>
    -- The piece begins with this turn or lies in the walk after it.
    rcases List.infix_cons_iff.mp hl with hpre | hinf
    · have hlen : l.length ≤ n + 1 := by
        simpa [length_steps] using hpre.length_le
      refine ⟨w, h, rfl, ?_⟩
      have hself := List.prefix_of_prefix_length_le hpre (w.prefix_steps hlen)
        (Nat.le_of_eq (w.length_steps _).symm)
      exact hself.eq_of_length (w.length_steps _).symm
    · obtain ⟨v, hv, hpart, hsteps⟩ := ih h.advance hinf
      exact ⟨v, hv, hpart, hsteps⟩

end Walk

/-! ### Fair shares -/

/-- The parts differ by one step at most. -/
theorem size_part_le {steps workers : Nat} (hs : 0 < steps) (hw : 0 < workers) (i : Nat) :
    (part steps workers i).size ≤ (steps + workers - 1) / workers := by
  rw [Nat.le_div_iff_mul_le hw]
  unfold part
  split
  next hle =>
    have hsize := size_part hw hle i
    rw [part, if_pos hle] at hsize
    have hdiv := Nat.div_add_mod steps workers
    rw [hsize, Nat.add_mul, Nat.mul_comm]
    split <;> omega
  next hlt =>
    have hone : (Part.mk (i % steps) (i % steps)).size = 1 := by simp [Part.size]
    rw [hone]
    omega

/-! ### Turns of all workers -/

namespace Sessions

def walk? (s : Sessions) (id : String) : Option Walk := (s.find? id).bind (·.walk)

def part? (s : Sessions) (id : String) : Option Part := (s.walk? id).map (·.part)

/-- The turn of a worker: the step that it scans, and the sessions afterwards. -/
def turn (s : Sessions) (id : String) : Nat × Sessions :=
  (((s.find? id).map (·.step)).getD 0, s.modify id (·.advance))

/-- The turns of workers, each with the step that was scanned. -/
def turns (s : Sessions) : List String → List (String × Nat)
  | [] => []
  | id :: ids => (id, (s.turn id).1) :: (s.turn id).2.turns ids

/-- The steps that one worker scanned. -/
def stepsOf (id : String) (log : List (String × Nat)) : List Nat :=
  (log.filter (·.1 = id)).map (·.2)

theorem mem_stepsOf {id : String} {k : Nat} {log : List (String × Nat)} :
    k ∈ stepsOf id log ↔ (id, k) ∈ log := by
  simp [stepsOf]

theorem turn_fst {s : Sessions} {id : String} {w : Walk} (h : s.walk? id = some w) :
    (s.turn id).1 = w.step := by
  obtain ⟨x, hx, hw⟩ := Option.bind_eq_some_iff.mp h
  simp [turn, hx, Session.step, hw]

theorem walk?_turn (s : Sessions) (other id : String) :
    (s.turn other).2.walk? id =
      if id = other then (s.walk? id).map Walk.advance else s.walk? id := by
  rw [walk?, turn, find?_modify (f := Session.advance) (fun _ => rfl)]
  split
  · rw [Option.bind_map, walk?, Option.map_bind]
    rfl
  · rfl

/-- Whatever the others do, a worker goes along its own walk. -/
theorem stepsOf_turns {s : Sessions} {id : String} {w : Walk} (h : s.walk? id = some w)
    (ids : List String) : stepsOf id (s.turns ids) = w.steps (ids.count id) := by
  induction ids generalizing s w with
  | nil => rfl
  | cons other ids ih =>
    have hwalk := s.walk?_turn other id
    -- Only the worker's own turn advances its walk and adds to its steps.
    by_cases ho : other = id
    · subst ho
      rw [if_pos rfl, h, Option.map_some] at hwalk
      rw [List.count_cons_self, Walk.steps, ← ih hwalk, ← turn_fst h]
      simp [turns, stepsOf]
    · rw [if_neg (Ne.symm ho), h] at hwalk
      rw [List.count_cons_of_ne ho, ← ih hwalk]
      simp [turns, stepsOf, ho]

/-- A cut gives the live ones of some workers the parts of the route in order. -/
theorem walk?_partitionRoute {s : Sessions} {ids live : List String} {steps : Nat}
    {now : Instant} {unseen : Span} (hids : ids.Nodup) (hsteps : 0 < steps)
    (hlive : ids.filter (s.isLive · now unseen) = live) {id : String} (hid : id ∈ live) :
    ∃ old, (s.partitionRoute ids steps now unseen).2.walk? id =
      some (.assign old (part steps live.length (live.idxOf id))) := by
  obtain ⟨hmem, x, hx⟩ := exists_find?_of_mem_live hlive hid
  refine ⟨x.walk, ?_⟩
  rw [walk?, find?_partitionRoute_of_mem hids hlive (List.ne_nil_of_mem hid) hmem, hx,
    Option.map_some, Session.recut, id_of_find? hx, if_pos ⟨hid, hsteps⟩]
  rfl

/-- What the turns of the workers `ids` scan of a route of so many steps, when each of them goes
along the part that it has in `s`. -/
structure Rotation (s : Sessions) (ids : List String) (steps : Nat) (turns : List String) :
    Prop where
  /-- When each has had the turns of a fair share, every step was scanned and nothing else. -/
  whole : (∀ id ∈ ids, (steps + ids.length - 1) / ids.length ≤ turns.count id) →
    ∀ k, (∃ id ∈ ids, (id, k) ∈ s.turns turns) ↔ k < steps
  own : ∀ id ∈ ids, ∀ k, (id, k) ∈ s.turns turns → ∃ p, s.part? id = some p ∧ p.contains k
  apart : ids.length ≤ steps → ∀ id ∈ ids, ∀ other ∈ ids, ∀ k, (id, k) ∈ s.turns turns →
    (other, k) ∈ s.turns turns → id = other
  /-- As many turns of one worker as its part has steps scan each of them once. -/
  round : ∀ id ∈ ids, ∀ p, s.part? id = some p → ∀ l, l <:+: stepsOf id (s.turns turns) →
    l.length = p.size → l.Perm (List.range' p.start p.size)

theorem rotation_of_walks {s : Sessions} {ids : List String} {steps : Nat} (hids : ids.Nodup)
    (hsteps : 0 < steps) (hne : ids ≠ [])
    (hwalk : ∀ id ∈ ids, ∃ w, s.walk? id = some w ∧ w.Within ∧
      w.part = part steps ids.length (ids.idxOf id)) (turns : List String) :
    Rotation s ids steps turns := by
  have hlen : 0 < ids.length := List.length_pos_iff.mpr hne
  have hown : ∀ id ∈ ids, ∀ k, (id, k) ∈ s.turns turns →
      s.part? id = some (part steps ids.length (ids.idxOf id)) ∧
        (part steps ids.length (ids.idxOf id)).contains k := by
    intro id hid k hk
    obtain ⟨w, hw, hin, hp⟩ := hwalk id hid
    rw [← mem_stepsOf, stepsOf_turns hw] at hk
    exact ⟨by rw [part?, hw, Option.map_some, hp], hp ▸ Walk.contains_of_mem_steps hin hk⟩
  refine ⟨fun hfair k => ⟨?_, fun hk => ?_⟩, ?_, ?_, ?_⟩
  · rintro ⟨id, hid, hk⟩
    have hc := (hown id hid k hk).2
    have hlast : (part steps ids.length (ids.idxOf id)).last < steps :=
      part_last_lt hsteps (List.idxOf_lt_length_of_mem hid)
    simp only [Part.contains, Bool.and_eq_true, decide_eq_true_eq] at hc
    omega
  · obtain ⟨i, hi, hc⟩ := exists_part_contains hlen hk
    have hid : ids[i] ∈ ids := List.getElem_mem hi
    obtain ⟨w, hw, hin, hp⟩ := hwalk ids[i] hid
    rw [hids.idxOf_getElem i hi] at hp
    -- The turns of a fair share make a full round of the part that the step is in.
    have hround : w.part.size ≤ turns.count ids[i] :=
      Nat.le_trans (by rw [hp]; exact size_part_le hsteps hlen i) (hfair ids[i] hid)
    refine ⟨ids[i], hid, mem_stepsOf.mp ?_⟩
    rw [stepsOf_turns hw]
    refine (w.prefix_steps hround).subset ((Walk.perm_steps_size hin).mem_iff.mpr ?_)
    rw [← hp] at hc
    simp only [Part.contains, Bool.and_eq_true, decide_eq_true_eq] at hc
    rw [List.mem_range'_1, Part.size]
    omega
  · exact fun id hid k hk => ⟨_, hown id hid k hk⟩
  · intro hle id hid other hother k hk hk'
    have hi := eq_of_part_contains hle (hown id hid k hk).2 (hown other hother k hk').2 hlen
    exact (List.idxOf_inj hid).mp hi
  · intro id hid p hpart l hl hsize
    obtain ⟨w, hw, hin, -⟩ := hwalk id hid
    rw [part?, hw, Option.map_some] at hpart
    cases hpart
    rw [stepsOf_turns hw] at hl
    obtain ⟨v, hv, hp, hsteps⟩ := Walk.exists_of_infix_steps hin hl
    rw [hsteps, hsize, ← hp]
    exact Walk.perm_steps_size hv

end Sessions

/-- Once the route of an area is cut, the live ones of its workers scan all of it in turns. -/
theorem Area.rotation_recalculate (a : Area) (s : Sessions) {ids : List String} {now : Instant}
    {unseen : Span} (hids : ids.Nodup) (hroute : 0 < a.route.length)
    (hlive : ids.filter (s.isLive · now unseen) ≠ []) (turns : List String) :
    Sessions.Rotation (a.recalculate ids now unseen s).2.2 (ids.filter (s.isLive · now unseen))
      a.route.length turns := by
  refine Sessions.rotation_of_walks (hids.filter _) hroute hlive (fun id hid => ?_) turns
  obtain ⟨old, hold⟩ := Sessions.walk?_partitionRoute hids hroute rfl hid
  refine ⟨_, hold, Walk.within_assign old (part_start_le_last ?_ _), Walk.part_assign _ _⟩
  exact List.length_pos_of_mem hid

/-- Two workers that are live and between them one that is not. -/
def threeSessions : Sessions :=
  { list := [.new "ada" 0 10, .new "bob" 1 0, .new "cyd" 2 10], next := 3, limits := .none }

def fiveSteps : Area := { (default : Area) with route := List.replicate 5 default }

/-- "ada" scans three of five steps and "cyd" two, in turns. -/
theorem rotation_fiveSteps :
    let ids := ["ada", "bob", "cyd"]
    let live := ids.filter (threeSessions.isLive · 12 5)
    let turns := ["ada", "cyd", "cyd", "ada", "cyd", "ada"]
    let s := (fiveSteps.recalculate ids 12 5 threeSessions).2.2
    ids.Nodup ∧ 0 < fiveSteps.route.length ∧ live ≠ [] ∧
      (∀ id ∈ live, (fiveSteps.route.length + live.length - 1) / live.length ≤ turns.count id) ∧
      Sessions.Rotation s live fiveSteps.route.length turns ∧
      s.turns turns = [("ada", 0), ("cyd", 3), ("cyd", 4), ("ada", 1), ("cyd", 3), ("ada", 2)] :=
  ⟨by decide, by decide, by decide, by decide,
    fiveSteps.rotation_recalculate threeSessions (by decide) (by decide) (by decide) _, by decide⟩

/-- A worker with a part of the route is sent to the step of its turn. -/
theorem Fleet.pokemonJob_of_hasWalk {σ : Type} {f : Fleet σ} {worker : String}
    (h : f.hasWalk worker) (a : Area) (now : Instant) :
    f.pokemonJob worker a now =
      ((a.locationAt .pokemon (f.sessions.turn worker).1).map
        (.scanPokemon · f.settings.minLevel f.settings.maxLevel),
        { f with sessions := (f.sessions.turn worker).2 }) := by
  simp only [pokemonJob, h, if_true]
  rfl

end ScanFleet
