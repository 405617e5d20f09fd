import Mathlib.Data.List.Induction
import ScanFleet.Proofs.Pool.Halves

/-! Reloads that overlap marks.  The rows that a reload merges are those of the time when it came,
so it may put back a record as it was before a mark.  A ban or suspension is lost exactly if the
reload that merges last overlaps all marks that impose it. -/

namespace ScanFleet.Overlap

variable {u v : String} {q : Quarantine} {m : AccountMark} {p : Pool} {t : State} {tick : Tick}

/-! ### What a tick does -/

/-- Whether a half of a mark imposes a quarantine on the account of a username. -/
def Rest.Imposes (u : String) (q : Quarantine) : Rest → Prop
  | .merge _ => False
  | .write v m _ => v = u ∧ m.quarantine? = some q

def Tick.Imposes (u : String) (q : Quarantine) : Tick → Prop
  | .mark v m => v = u ∧ m.quarantine? = some q
  | _ => False

/-- What is left to be done comes from rows of distinct usernames, or from a mark in some pool. -/
def Rest.Fits : Rest → Prop
  | .merge rows => (rows.map (·.username)).Nodup
  | .write u m w => ∃ p, (m.update u p).2 = w

structure State.Sound (t : State) : Prop where
  pool : t.fleet.pool.Sound
  distinct : t.fleet.store.Distinct
  writable : t.fleet.store.readOnly = false
  tasks : ∀ task ∈ t.tasks, task.rest.Fits

/-- The rows that are merged with a tick. -/
def State.merged? (t : State) : Tick → Option (List Account)
  | .finish i =>
    match t.tasks[i]? with
    | some ⟨.merge rows, false⟩ => some rows
    | _ => none
  | _ => none

/-- The half of an operation that a tick does second. -/
theorem State.after_finish (t : State) (i : Nat) :
    (t.after (.finish i) = t ∧ t.merged? (.finish i) = none) ∨
      ∃ before rest later, t.tasks = before ++ ⟨rest, false⟩ :: later ∧
        t.after (.finish i) = ⟨rest.finish t.fleet, before ++ ⟨rest, true⟩ :: later⟩ ∧
        ∀ rows, t.merged? (.finish i) = some rows ↔ rest = .merge rows := by
  simp only [after, merged?]
  split
  next rest htask =>
    obtain ⟨before, later, htasks, hset⟩ := Keyed.split_of_getElem? htask
    refine .inr ⟨before, rest, later, htasks, by rw [hset], fun rows => ?_⟩
    rw [htask]
    cases rest with
    | merge old => simp
    | write => simp
  next hnot =>
    refine .inl ⟨rfl, ?_⟩
    split
    next rows htask => exact absurd htask (hnot _)
    next => rfl

theorem finish_write (h : t.Sound) {w : Option Write} (hw : (Rest.write v m w).Fits) :
    ((Rest.write v m w).finish t.fleet).pool = t.fleet.pool ∧
      ((Rest.write v m w).finish t.fleet).store.readOnly = false ∧
      ∀ q : Quarantine, q.since? = none →
        ∃ k, ((Rest.write v m w).finish t.fleet).store.accounts = amend v k t.fleet.store.accounts ∧
          (∀ a, (k a).username = a.username) ∧
          ∀ a, q.IsNoted (k a) ↔ q.IsNoted a ∨ m.quarantine? = some q := by
  obtain ⟨p, rfl⟩ := hw
  refine ⟨?_, ?_, fun q hq => ?_⟩
  · cases (m.update v p).2 <;> rfl
  · cases (m.update v p).2 with
    | none => exact h.writable
    | some w =>
      rw [Rest.finish, store_persist h.writable, Tables.readOnly_apply]
      exact h.writable
  · obtain ⟨k, hk⟩ := exists_changes hq v p m
    exact ⟨k, hk.rows t.fleet h.writable, hk.username, hk.noted⟩

theorem State.Sound.after (h : t.Sound) (tick : Tick) : (t.after tick).Sound := by
  have keep {before later : List Task} {rest : Rest}
      (htasks : t.tasks = before ++ ⟨rest, false⟩ :: later) :
      ∀ task ∈ before ++ ⟨rest, true⟩ :: later, task.rest.Fits := by
    have hall := h.tasks
    rw [htasks, List.forall_mem_append, List.forall_mem_cons] at hall
    rw [List.forall_mem_append, List.forall_mem_cons]
    exact hall
  have add {rest : Rest} (hrest : rest.Fits) :
      ∀ task ∈ t.tasks ++ [⟨rest, false⟩], task.rest.Fits :=
    List.forall_mem_append.mpr ⟨h.tasks, List.forall_mem_singleton.mpr hrest⟩
  cases tick with
  | reload => exact ⟨h.pool, h.distinct, h.writable, add h.distinct⟩
  | mark u m =>
    obtain ⟨k, hk⟩ := exists_changes (q := .banned) rfl u t.fleet.pool m
    exact ⟨hk.flags.sound h.pool, h.distinct, h.writable, add ⟨t.fleet.pool, rfl⟩⟩
  | finish i =>
    rcases t.after_finish i with ⟨hstay, -⟩ | ⟨before, rest, later, htasks, hafter, -⟩
    · rwa [hstay]
    · have hfits : rest.Fits := h.tasks ⟨rest, false⟩ (by simp [htasks])
      rw [hafter]
      cases rest with
      | merge rows => exact ⟨h.pool.merge rows, h.distinct, h.writable, keep htasks⟩
      | write v m w =>
        obtain ⟨hpool, hwritable, hrows⟩ := finish_write h hfits
        obtain ⟨k, hk, hname, -⟩ := hrows .banned rfl
        refine ⟨?_, ?_, hwritable, keep htasks⟩
        · rw [hpool]
          exact h.pool
        · rw [Tables.Distinct, hk, usernames_amend hname]
          exact h.distinct

theorem State.Sound.run (h : t.Sound) (ticks : List Tick) : (t.run ticks).Sound := by
  induction ticks generalizing t with
  | nil => exact h
  | cons tick ticks ih => exact ih (h.after tick)

/-- A tick that merges nothing keeps what is noted in the pool, and notes what a mark imposes. -/
theorem pool_after (h : t.Sound) (hq : q.since? = none) (hmerge : t.merged? tick = none) :
    (t.after tick).fleet.pool.usernames = t.fleet.pool.usernames ∧
      (Noted u q (t.after tick).fleet.pool.accounts ↔
        Noted u q t.fleet.pool.accounts ∨ t.fleet.pool.exists? u ∧ tick.Imposes u q) := by
  cases tick with
  | reload => exact ⟨rfl, by simp [State.after, Tick.Imposes]⟩
  | mark v m =>
    obtain ⟨k, hk⟩ := exists_changes hq v t.fleet.pool m
    exact ⟨hk.flags.usernames, noted_update hq h.pool m⟩
  | finish i =>
    simp only [Tick.Imposes, and_false, or_false]
    rcases t.after_finish i with ⟨hstay, -⟩ | ⟨before, rest, later, htasks, hafter, hrest⟩
    · rw [hstay]
      exact ⟨rfl, .rfl⟩
    · rw [hafter]
      cases rest with
      | merge rows =>
        rw [(hrest rows).mpr rfl] at hmerge
        cases hmerge
      | write v m w =>
        rw [(finish_write h (h.tasks ⟨.write v m w, false⟩ (by simp [htasks]))).1]
        exact ⟨rfl, .rfl⟩

theorem mem_pool_merge (h : t.Sound) {rows : List Account} {i : Nat}
    (hpending : t.tasks[i]? = some ⟨.merge rows, false⟩) {a : Account} :
    a ∈ (t.after (.finish i)).fleet.pool.accounts ↔ a ∈ rows := by
  have hrows : (rows.map (·.username)).Nodup := h.tasks _ (List.mem_of_getElem? hpending)
  have hafter : (t.after (.finish i)).fleet.pool = (t.fleet.pool.merge rows).2 := by
    simp only [State.after, hpending, Rest.finish]
  rw [hafter]
  exact Pool.mem_accounts_merge h.pool hrows

/-! ### Rows -/

/-- Something that imposes a quarantine on the account of a username is written. -/
def Written (u : String) (q : Quarantine) (tasks : List Task) : Prop :=
  ∃ task ∈ tasks, task.isDone ∧ task.rest.Imposes u q

/-- The rows of a store that was that of `f`: a quarantine is noted there as soon as it is
written. -/
structure Recorded (f : Fleet Tables) (u : String) (q : Quarantine) (t : State) : Prop where
  usernames : t.fleet.store.accounts.map (·.username) = f.store.accounts.map (·.username)
  noted : Noted u q t.fleet.store.accounts ↔
    Noted u q f.store.accounts ∨ u ∈ f.store.accounts.map (·.username) ∧ Written u q t.tasks

theorem Recorded.after {f : Fleet Tables} (hr : Recorded f u q t) (h : t.Sound)
    (hq : q.since? = none) (tick : Tick) : Recorded f u q (t.after tick) := by
  have add (rest : Rest) : Written u q (t.tasks ++ [⟨rest, false⟩]) ↔ Written u q t.tasks := by
    simp [Written, or_and_right, exists_or]
  cases tick with
  | reload => exact ⟨hr.usernames, hr.noted.trans (by rw [State.after, add])⟩
  | mark v m => exact ⟨hr.usernames, hr.noted.trans (by rw [State.after, add])⟩
  | finish i =>
    rcases t.after_finish i with ⟨hstay, -⟩ | ⟨before, rest, later, htasks, hafter, -⟩
    · rwa [hstay]
    · have hdone : Written u q (before ++ ⟨rest, true⟩ :: later) ↔
          Written u q t.tasks ∨ rest.Imposes u q := by
        simp only [Written, htasks, List.mem_append, List.mem_cons, or_and_right, exists_or,
          exists_eq_left, Bool.false_eq_true, false_and, true_and, false_or]
        rw [or_assoc, or_comm (b := rest.Imposes u q)]
      rw [hafter]
      cases rest with
      | merge rows =>
        refine ⟨hr.usernames, hr.noted.trans ?_⟩
        simp [hdone, Rest.Imposes]
      | write v m w =>
        obtain ⟨-, -, hrows⟩ :=
          finish_write h (h.tasks ⟨.write v m w, false⟩ (by simp [htasks]))
        obtain ⟨k, hk, hname, hnoted⟩ := hrows q hq
        refine ⟨?_, ?_⟩
        · rw [hk, usernames_amend hname, hr.usernames]
        · rw [hk, noted_amend hname hnoted, hr.noted, hr.usernames, hdone, Rest.Imposes, or_assoc,
            and_or_left]

theorem recorded_run {f : Fleet Tables} (h : (State.idle f).Sound) (hq : q.since? = none)
    (u : String) (ticks : List Tick) : Recorded f u q ((State.idle f).run ticks) := by
  induction ticks using List.reverseRecOn with
  | nil => exact ⟨rfl, by simp [State.run, State.idle, Written]⟩
  | append_singleton ticks tick ih =>
    rw [State.run_concat]
    exact ih.after (h.run ticks) hq tick

/-! ### The last merge -/

/-- No tick merges rows. -/
def State.Quiet (t : State) : List Tick → Prop
  | [] => True
  | tick :: ticks => t.merged? tick = none ∧ (t.after tick).Quiet ticks

theorem State.quiet_concat (t : State) (ticks : List Tick) (tick : Tick) :
    t.Quiet (ticks ++ [tick]) ↔ t.Quiet ticks ∧ (t.run ticks).merged? tick = none := by
  induction ticks generalizing t with
  | nil => simp [Quiet, run]
  | cons first ticks ih =>
    rw [List.cons_append, Quiet, Quiet, ih, and_assoc]
    rfl

/-- While nothing is merged, the pool notes what the marks impose and forgets nothing. -/
theorem pool_quiet (h : t.Sound) (hq : q.since? = none) {ticks : List Tick}
    (hquiet : t.Quiet ticks) :
    (t.run ticks).fleet.pool.usernames = t.fleet.pool.usernames ∧
      (Noted u q (t.run ticks).fleet.pool.accounts ↔
        Noted u q t.fleet.pool.accounts ∨
          t.fleet.pool.exists? u ∧ ∃ tick ∈ ticks, tick.Imposes u q) := by
  induction ticks generalizing t with
  | nil => simp [State.run]
  | cons tick ticks ih =>
    obtain ⟨hfirst, hquiet⟩ := hquiet
    obtain ⟨hname, hnoted⟩ := pool_after (u := u) h hq hfirst
    obtain ⟨hnames, hrest⟩ := ih (h.after tick) hquiet
    refine ⟨hnames.trans hname, hrest.trans ?_⟩
    rw [hnoted, Pool.exists?_iff, Pool.exists?_iff, hname]
    simp only [List.mem_cons, exists_eq_or_imp]
    rw [or_assoc, and_or_left]

theorem pending_run {task : Task} {i : Nat} {ticks : List Tick} (hi : t.tasks[i]? = some task)
    (hnot : .finish i ∉ ticks) : (t.run ticks).tasks[i]? = some task := by
  induction ticks generalizing t with
  | nil => exact hi
  | cons tick ticks ih =>
    rw [List.mem_cons, not_or] at hnot
    have hlt : i < t.tasks.length := (List.getElem?_eq_some_iff.mp hi).1
    refine ih ?_ hnot.2
    cases tick with
    | reload => simpa only [State.after, List.getElem?_append_left hlt] using hi
    | mark u m => simpa only [State.after, List.getElem?_append_left hlt] using hi
    | finish j =>
      have hij : j ≠ i := fun he => hnot.1 (he ▸ rfl)
      simp only [State.after]
      split
      · exact (List.getElem?_set_ne hij).trans hi
      · exact hi

/-- A reload that is under way came at some point, and has yet to merge the rows of that time. -/
theorem read_of_pending (f : Fleet Tables) {ticks : List Tick} {i : Nat} {rows : List Account}
    (h : ((State.idle f).run ticks).tasks[i]? = some ⟨.merge rows, false⟩) :
    ∃ before between, ticks = before ++ .reload :: between ∧ .finish i ∉ between ∧
      i = ((State.idle f).run before).tasks.length ∧
      rows = ((State.idle f).run before).fleet.store.accounts := by
  -- The last tick is the reload itself, or one that leaves it waiting, for `.finish i` ends it.
  induction ticks using List.reverseRecOn with
  | nil => cases h
  | append_singleton ticks tick ih =>
    have extend (hold : ((State.idle f).run ticks).tasks[i]? = some ⟨.merge rows, false⟩)
        (hne : tick ≠ .finish i) :
        ∃ before between, ticks ++ [tick] = before ++ .reload :: between ∧
          .finish i ∉ between ∧ i = ((State.idle f).run before).tasks.length ∧
          rows = ((State.idle f).run before).fleet.store.accounts := by
      obtain ⟨before, between, hticks, hnot, hi, hrows⟩ := ih hold
      refine ⟨before, between ++ [tick], by simp [hticks], ?_, hi, hrows⟩
      rw [List.mem_append, List.mem_singleton, not_or]
      exact ⟨hnot, fun he => hne he.symm⟩
    rw [State.run_concat] at h
    cases tick with
    | reload =>
      simp only [State.after, List.getElem?_append, List.getElem?_singleton] at h
      split at h
      · exact extend h (by simp)
      · split at h
        next hi =>
          refine ⟨ticks, [], rfl, List.not_mem_nil, by omega, ?_⟩
          simpa using h.symm
        next => cases h
    | mark u m =>
      simp only [State.after, List.getElem?_append, List.getElem?_singleton] at h
      split at h
      · exact extend h (by simp)
      · split at h <;> simp at h
    | finish j =>
      simp only [State.after] at h
      split at h
      next rest hj =>
        by_cases hij : j = i
        · subst hij
          rw [List.getElem?_set_self (List.getElem?_eq_some_iff.mp hj).1] at h
          cases h
        · rw [List.getElem?_set_ne hij] at h
          exact extend h fun he => hij (Tick.finish.inj he)
      next hnot =>
        refine extend h fun he => ?_
        cases he
        exact hnot _ h

theorem pending_of_merged {rows : List Account} (h : t.merged? tick = some rows) :
    ∃ i, tick = .finish i ∧ t.tasks[i]? = some ⟨.merge rows, false⟩ := by
  cases tick with
  | reload | mark => cases h
  | finish i =>
    refine ⟨i, rfl, ?_⟩
    simp only [State.merged?] at h
    split at h
    next hpending =>
      cases h
      exact hpending
    next => cases h

/-- The ticks up to the end of a reload that comes after `before`. -/
def reloadAfter (f : Fleet Tables) (before between : List Tick) : List Tick :=
  before ++ .reload :: between ++ [.finish ((State.idle f).run before).tasks.length]

/-- A reload comes after `before`, merges after `between`, and no other merges later. -/
structure MergesLast (f : Fleet Tables) (before between later : List Tick) : Prop where
  once : .finish ((State.idle f).run before).tasks.length ∉ between
  last : ((State.idle f).run (reloadAfter f before between)).Quiet later

theorem quiet_or_mergesLast (f : Fleet Tables) (ticks : List Tick) :
    (State.idle f).Quiet ticks ∨ ∃ before between later,
      ticks = reloadAfter f before between ++ later ∧ MergesLast f before between later := by
  induction ticks using List.reverseRecOn with
  | nil => exact .inl trivial
  | append_singleton ticks tick ih =>
    cases hmerge : ((State.idle f).run ticks).merged? tick with
    | none =>
      rcases ih with hquiet | ⟨before, between, later, rfl, hlast⟩
      · exact .inl (((State.idle f).quiet_concat ticks tick).mpr ⟨hquiet, hmerge⟩)
      · rw [State.run_append] at hmerge
        exact .inr ⟨before, between, later ++ [tick], List.append_assoc .., hlast.once,
          (State.quiet_concat _ later tick).mpr ⟨hlast.last, hmerge⟩⟩
    | some rows =>
      obtain ⟨i, rfl, hpending⟩ := pending_of_merged hmerge
      obtain ⟨before, between, rfl, hnot, rfl, -⟩ := read_of_pending f hpending
      exact .inr ⟨before, between, [], by rw [List.append_nil, reloadAfter], hnot, trivial⟩

/-- After the last merge a quarantine is noted in the pool if it was in the store at first, or was
written there before the reload came, or was imposed after the merge. -/
theorem MergesLast.noted {f : Fleet Tables} (h : (State.idle f).Sound) (hq : q.since? = none)
    {before between later : List Tick} (hlast : MergesLast f before between later)
    (hu : ((State.idle f).run (reloadAfter f before between ++ later)).fleet.pool.exists? u) :
    Noted u q ((State.idle f).run (reloadAfter f before between ++ later)).fleet.pool.accounts ↔
      Noted u q f.store.accounts ∨ Written u q ((State.idle f).run before).tasks ∨
        ∃ tick ∈ later, tick.Imposes u q := by
  obtain ⟨hstore, hrecorded⟩ := recorded_run h hq u before
  have hread : ((State.idle f).run (before ++ .reload :: between)).tasks[
      ((State.idle f).run before).tasks.length]? =
      some ⟨.merge ((State.idle f).run before).fleet.store.accounts, false⟩ := by
    rw [State.run_append]
    exact pending_run (t := ((State.idle f).run before).after .reload)
      List.getElem?_concat_length hlast.once
  have hmerge {a : Account} :
      a ∈ ((State.idle f).run (reloadAfter f before between)).fleet.pool.accounts ↔
        a ∈ ((State.idle f).run before).fleet.store.accounts := by
    rw [reloadAfter, State.run_concat]
    exact mem_pool_merge (h.run (before ++ .reload :: between)) hread
  obtain ⟨hnames, hnoted⟩ := pool_quiet (u := u) (h.run _) hq hlast.last
  rw [State.run_append, Pool.exists?_iff, hnames] at hu
  -- The account is among the rows that were merged, so what is written for it is noted there.
  have hrow : u ∈ f.store.accounts.map (·.username) := by
    obtain ⟨a, ha, rfl⟩ := List.mem_map.mp hu
    rw [← hstore]
    exact List.mem_map_of_mem (hmerge.mp ha)
  have hrows : Noted u q ((State.idle f).run (reloadAfter f before between)).fleet.pool.accounts ↔
      Noted u q ((State.idle f).run before).fleet.store.accounts :=
    exists_congr fun a => and_congr_left' hmerge
  rw [State.run_append, hnoted, Pool.exists?_iff, and_iff_right hu, hrows, hrecorded,
    and_iff_right hrow, or_assoc]

/-- The reload that merges last overlaps all that imposes a quarantine on an account: nothing of
that is written when the reload comes, and nothing of it is made after the merge. -/
structure Overlaps (f : Fleet Tables) (u : String) (q : Quarantine)
    (before between later : List Tick) : Prop extends MergesLast f before between later where
  unnoted : ¬ Noted u q f.store.accounts
  unwritten : ¬ Written u q ((State.idle f).run before).tasks
  unmarked : ∀ tick ∈ later, ¬ tick.Imposes u q

def Overlapped (f : Fleet Tables) (ticks : List Tick) (u : String) (q : Quarantine) : Prop :=
  ∃ before between later, ticks = reloadAfter f before between ++ later ∧
    Overlaps f u q before between later

theorem noted_iff_not_overlapped {f : Fleet Tables} (h : (State.idle f).Sound)
    (hq : q.since? = none) {ticks : List Tick} (hmark : ∃ tick ∈ ticks, tick.Imposes u q)
    (hu : ((State.idle f).run ticks).fleet.pool.exists? u) :
    Noted u q ((State.idle f).run ticks).fleet.pool.accounts ↔ ¬ Overlapped f ticks u q := by
  constructor
  · rintro hnoted ⟨before, between, later, rfl, hover⟩
    rcases (hover.noted h hq hu).mp hnoted with hstore | hwritten | ⟨tick, htick, himposes⟩
    · exact hover.unnoted hstore
    · exact hover.unwritten hwritten
    · exact hover.unmarked tick htick himposes
  · intro hnot
    rcases quiet_or_mergesLast f ticks with hquiet | ⟨before, between, later, rfl, hlast⟩
    · -- Without a merge the pool keeps every mark.
      obtain ⟨hnames, hnoted⟩ := pool_quiet (u := u) h hq hquiet
      rw [Pool.exists?_iff, hnames] at hu
      exact hnoted.mpr (.inr ⟨Pool.exists?_iff.mpr hu, hmark⟩)
    · rw [hlast.noted h hq hu]
      by_contra hnone
      rw [not_or, not_or] at hnone
      exact hnot ⟨before, between, later, rfl, hlast, hnone.1, hnone.2.1,
        fun tick htick himposes => hnone.2.2 ⟨tick, htick, himposes⟩⟩

/-! ### Selections -/

theorem not_allocate_of_noted (h : p.Sound) (hq : q.since? = none)
    (hnoted : p.exists? u → Noted u q p.accounts) (accept : Account → Bool) (now : Instant)
    {c : Credentials} (hc : (p.allocate accept now).1 = some c) : c.username ≠ u := by
  rintro rfl
  obtain ⟨b, hb, rfl, -, husable, -⟩ := Pool.allocate_some h hc
  obtain ⟨a, ha, hu, hnoted⟩ := hnoted (Pool.exists?_of_mem hb)
  have hlasts : q.Lasts now := by
    cases q with
    | banned | suspended => trivial
    | disabled | warned => cases hq
  rw [h.eq_of_username hb ha hu.symm, Quarantine.not_isUsable hnoted hlasts] at husable
  cases husable

/-- After a reload an account is not selected if a quarantine is noted in its row. -/
theorem not_allocate_reloaded {f : Fleet Tables} (hpool : f.pool.Sound) (hrows : f.store.Distinct)
    (hq : q.since? = none)
    (hnoted : u ∈ f.store.accounts.map (·.username) → Noted u q f.store.accounts)
    (accept : Account → Bool) (now : Instant) {c : Credentials}
    (hc : (f.reloadAccounts.2.pool.allocate accept now).1 = some c) : c.username ≠ u := by
  have hpool' : f.reloadAccounts.2.pool = (f.pool.merge f.store.accounts).2 := by
    rw [Fleet.reloadAccounts_tables, Fleet.refill]
  have hmem {a : Account} : a ∈ (f.pool.merge f.store.accounts).2.accounts ↔ a ∈ f.store.accounts :=
    Pool.mem_accounts_merge hpool hrows
  rw [hpool'] at hc
  refine not_allocate_of_noted (hpool.merge _) hq (fun hu => ?_) accept now hc
  obtain ⟨a, ha, rfl⟩ := List.mem_map.mp (Pool.exists?_iff.mp hu)
  obtain ⟨b, hb, hbu⟩ := hnoted (List.mem_map_of_mem (hmem.mp ha))
  exact ⟨b, hmem.mpr hb, hbu⟩

/-- What was begun stays among the tasks, and a mark joins them. -/
theorem rests_after (t : State) (tick : Tick) :
    ∃ begun, (t.after tick).tasks.map (·.rest) = t.tasks.map (·.rest) ++ begun ∧
      (tick.Imposes u q → ∃ rest ∈ begun, rest.Imposes u q) := by
  cases tick with
  | reload => exact ⟨_, List.map_append, False.elim⟩
  | mark v m =>
    exact ⟨_, List.map_append, fun himposes => ⟨_, List.mem_singleton_self _, himposes⟩⟩
  | finish i =>
    refine ⟨[], ?_, False.elim⟩
    rcases t.after_finish i with ⟨hstay, -⟩ | ⟨before, rest, later, htasks, hafter, -⟩
    · rw [hstay, List.append_nil]
    · simp [hafter, htasks]

theorem imposes_run (t : State) {ticks : List Tick} (h : ∃ tick ∈ ticks, tick.Imposes u q) :
    ∃ rest ∈ (t.run ticks).tasks.map (·.rest), rest.Imposes u q := by
  induction ticks using List.reverseRecOn with
  | nil => simp at h
  | append_singleton ticks last ih =>
    obtain ⟨begun, hrests, hbegun⟩ := rests_after (u := u) (q := q) (t.run ticks) last
    rw [State.run_concat, hrests]
    obtain ⟨tick, htick, himposes⟩ := h
    rcases List.mem_append.mp htick with hold | hlast
    · obtain ⟨rest, hrest, himposes⟩ := ih ⟨tick, hold, himposes⟩
      exact ⟨rest, List.mem_append_left _ hrest, himposes⟩
    · rw [List.mem_singleton.mp hlast] at himposes
      obtain ⟨rest, hrest, himposes⟩ := hbegun himposes
      exact ⟨rest, List.mem_append_right _ hrest, himposes⟩

theorem written_of_isDone {ticks : List Tick} (hdone : (t.run ticks).isDone)
    (h : ∃ tick ∈ ticks, tick.Imposes u q) : Written u q (t.run ticks).tasks := by
  obtain ⟨rest, hrest, himposes⟩ := imposes_run t h
  obtain ⟨task, htask, rfl⟩ := List.mem_map.mp hrest
  exact ⟨task, htask, List.all_eq_true.mp hdone task htask, himposes⟩

/-- A mark that bans or suspends an account of the pool is lost exactly if the reload that merges
last overlaps it and every other such mark of the account.  If it is not lost, the account is not
selected; and once all operations have ended, it is not selected after another reload in any case,
for the mark is in the store. -/
theorem run_marks (f : Fleet Tables) (hpool : f.pool.Sound) (hrows : f.store.Distinct)
    (hwrites : f.store.readOnly = false) (ticks : List Tick) {u : String} {q : Quarantine}
    (hq : q.since? = none) (hmark : ∃ tick ∈ ticks, tick.Imposes u q) :
    let t := (State.idle f).run ticks
    (t.fleet.pool.exists? u → (t.fleet.Barred u q ↔ ¬ Overlapped f ticks u q)) ∧
    (¬ Overlapped f ticks u q → ∀ accept now c,
      (t.fleet.pool.allocate accept now).1 = some c → c.username ≠ u) ∧
    (t.isDone → ∀ accept now c,
      (t.fleet.reloadAccounts.2.pool.allocate accept now).1 = some c → c.username ≠ u) := by
  intro t
  have hstart : (State.idle f).Sound :=
    ⟨hpool, hrows, hwrites, fun _ htask => (List.not_mem_nil htask).elim⟩
  have h : t.Sound := hstart.run ticks
  refine ⟨noted_iff_not_overlapped hstart hq hmark, fun hnot accept now c => ?_,
    fun hdone accept now c => ?_⟩
  · exact not_allocate_of_noted h.pool hq
      (fun hu => (noted_iff_not_overlapped hstart hq hmark hu).mpr hnot) accept now
  · have hrecorded := recorded_run hstart hq u ticks
    refine not_allocate_reloaded h.pool h.distinct hq (fun hu => ?_) accept now
    rw [hrecorded.usernames] at hu
    exact hrecorded.noted.mpr (.inr ⟨hu, written_of_isDone hdone hmark⟩)

/-- A ban is made and written while a reload has the rows, which it merges then. -/
def crossed : List Tick := [.reload, .mark "ada" (.banned 20), .finish 1, .finish 0]

theorem run_marks_crossed :
    let f := (Fleet.new default Fleet.oneAccount).runPool [.reload]
    let t := (State.idle f).run crossed
    f.pool.Sound ∧ f.store.Distinct ∧ f.store.readOnly = false ∧
      (∃ tick ∈ crossed, tick.Imposes "ada" .banned) ∧ t.isDone ∧ t.fleet.pool.exists? "ada" ∧
      Overlapped f crossed "ada" .banned ∧
      ∀ accept now c,
        (t.fleet.reloadAccounts.2.pool.allocate accept now).1 = some c → c.username ≠ "ada" := by
  intro f t
  have hpool : f.pool.Sound := Fleet.sound_runPool Pool.sound_empty [.reload]
  have hrows : f.store.Distinct := by decide +kernel
  have hwrites : f.store.readOnly = false := rfl
  have hmark : ∃ tick ∈ crossed, tick.Imposes "ada" .banned :=
    ⟨.mark "ada" (.banned 20), by simp [crossed], rfl, rfl⟩
  have hdone : t.isDone := by decide +kernel
  have hu : t.fleet.pool.exists? "ada" := by decide +kernel
  have hlost : t.fleet.pool.accounts.all (! ·.banned) := by decide +kernel
  obtain ⟨hiff, -, hagain⟩ := run_marks f hpool hrows hwrites crossed rfl hmark
  refine ⟨hpool, hrows, hwrites, hmark, hdone, hu, ?_, hagain hdone⟩
  by_contra hnot
  obtain ⟨a, ha, -, hbanned⟩ := (hiff hu).mpr hnot
  have hfree := List.all_eq_true.mp hlost a ha
  rw [Bool.not_eq_true'] at hfree
  rw [Quarantine.IsNoted, hfree] at hbanned
  cases hbanned

/-- The row of the account says that it is banned, but its record does not, and it is selected. -/
theorem run_crossed_lost :
    let f := (Fleet.new default Fleet.oneAccount).runPool [.reload]
    let t := (State.idle f).run crossed
    f.store.readOnly = false ∧ t.isDone ∧
      t.fleet.store.accounts.map (fun a => (a.username, a.banned)) = [("ada", true)] ∧
      t.fleet.pool.accounts.map (fun a => (a.username, a.banned)) = [("ada", false)] ∧
      (t.fleet.pool.allocate (fun _ => true) 30).1 = some ⟨"ada", "pw"⟩ := by decide +kernel

/-- A ban that is written before the reload comes is kept. -/
example :
    let f := (Fleet.new default Fleet.oneAccount).runPool [.reload]
    let t := (State.idle f).run [.mark "ada" (.banned 20), .finish 0, .reload, .finish 1]
    t.isDone ∧ t.fleet.pool.accounts.map (fun a => (a.username, a.banned)) = [("ada", true)] ∧
      (t.fleet.pool.allocate (fun _ => true) 30).1 = none := by decide +kernel

end ScanFleet.Overlap
