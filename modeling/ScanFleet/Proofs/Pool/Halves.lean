import ScanFleet.Proofs.Fleet.Quarantine

/-! Operations on accounts in two halves, between which others may go on.  A mark changes a record
while it has the pool, and writes to the store after it let go of that.  A reload reads the rows
first, and then takes the pool to merge them. -/

namespace ScanFleet

/-- What a mark does while it has the pool, and the write that is left to be done. -/
def AccountMark.update (u : String) (p : Pool) : AccountMark → Pool × Option Write
  | .suspended now => (p.markSuspended u now, some (.suspended u now))
  | .banned now => (p.markBanned u now, some (.banned u now))
  | .disabled now => (p.markDisabled u now, some (.disabled u now))
  | .invalid => (p.markInvalid u, some (.invalid u))
  | .warned now => (p.markWarned u now, some (.warned u (now + warnDuration)))
  | .tutorialDone =>
    match p.find? u with
    | none => (p, none)
    | some a =>
      let n := Pool.tutorialLevel a.level
      (p.setLevel u n, some (.level u n))
  | .level n =>
    match p.find? u with
    | none => (p, none)
    | some a => if a.level = n then (p, none) else (p.setLevel u n, some (.level u n))

namespace Overlap

/-- What is left to be done of an operation: a reload has read rows, a mark is made in the pool. -/
inductive Rest where
  | merge (rows : List Account)
  | write (username : String) (mark : AccountMark) (write : Option Write)

def Rest.finish (f : Fleet Tables) : Rest → Fleet Tables
  | .merge rows => { f with pool := (f.pool.merge rows).2 }
  | .write _ _ none => f
  | .write _ _ (some w) => f.persist w

structure Task where
  rest : Rest
  isDone : Bool

/-- A fleet and the operations that have begun. -/
structure State where
  fleet : Fleet Tables
  tasks : List Task

/-- What happens next: the first half of an operation, or the second half of one that has begun. -/
inductive Tick where
  | reload
  | mark (username : String) (mark : AccountMark)
  | finish (i : Nat)

namespace State

def idle (f : Fleet Tables) : State := ⟨f, []⟩

def isDone (t : State) : Bool := t.tasks.all (·.isDone)

def after (t : State) : Tick → State
  | .reload => { t with tasks := t.tasks ++ [⟨.merge t.fleet.store.accounts, false⟩] }
  | .mark u m =>
    let (pool, write) := m.update u t.fleet.pool
    ⟨{ t.fleet with pool }, t.tasks ++ [⟨.write u m write, false⟩]⟩
  | .finish i =>
    match t.tasks[i]? with
    | some ⟨rest, false⟩ => ⟨rest.finish t.fleet, t.tasks.set i ⟨rest, true⟩⟩
    | _ => t

def run (t : State) (ticks : List Tick) : State := ticks.foldl after t

theorem run_append (t : State) (before after : List Tick) :
    t.run (before ++ after) = (t.run before).run after :=
  List.foldl_append

theorem run_concat (t : State) (ticks : List Tick) (tick : Tick) :
    t.run (ticks ++ [tick]) = (t.run ticks).after tick :=
  List.foldl_concat ..

/-- A mark whose halves follow each other is the mark of the fleet. -/
theorem run_mark (t : State) (u : String) (m : AccountMark) :
    (t.run [.mark u m, .finish t.tasks.length]).fleet = t.fleet.mark u m := by
  simp only [run, List.foldl_cons, List.foldl_nil, after, List.getElem?_concat_length]
  cases m with
  | tutorialDone =>
    cases hfind : t.fleet.pool.find? u with
    | none => simp only [AccountMark.update, Fleet.mark, Fleet.markTutorialDone, hfind, Rest.finish]
    | some a =>
      simp only [AccountMark.update, Fleet.mark, Fleet.markTutorialDone, hfind, Rest.finish]
  | level n =>
    cases hfind : t.fleet.pool.find? u with
    | none => simp only [AccountMark.update, Fleet.mark, Fleet.setLevel, hfind, Rest.finish]
    | some a =>
      simp only [AccountMark.update, Fleet.mark, Fleet.setLevel, hfind]
      split <;> rfl
  | suspended | banned | disabled | invalid | warned => rfl

/-- A reload whose halves follow each other is the reload of the fleet. -/
theorem run_reload (t : State) :
    (t.run [.reload, .finish t.tasks.length]).fleet = t.fleet.reloadAccounts.2 := by
  simp only [run, List.foldl_cons, List.foldl_nil, after, List.getElem?_concat_length]
  rfl

end State

/-! ### What is noted -/

/-- Accounts have one of a username with a quarantine noted in it. -/
def Noted (u : String) (q : Quarantine) (l : List Account) : Prop :=
  ∃ a ∈ l, a.username = u ∧ q.IsNoted a

variable {u v : String} {q : Quarantine} {m : AccountMark} {p : Pool}

/-- A mark notes a quarantine without an end exactly if it imposes it, and never removes one. -/
theorem isNoted_change_iff (hq : q.since? = none) (m : AccountMark) (a : Account) :
    q.IsNoted (m.change a) ↔ q.IsNoted a ∨ m.quarantine? = some q := by
  cases q with
  | banned | suspended => cases m <;> simp [Quarantine.IsNoted, AccountMark.change,
      AccountMark.quarantine?]
  | disabled | warned => cases hq

theorem noted_amend {k : Account → Account} (hk : ∀ a, (k a).username = a.username) {imposed : Prop}
    (hq : ∀ a, q.IsNoted (k a) ↔ q.IsNoted a ∨ imposed) (l : List Account) :
    Noted u q (amend v k l) ↔
      Noted u q l ∨ u ∈ l.map (·.username) ∧ v = u ∧ imposed := by
  constructor
  · rintro ⟨b, hb, hu, hnoted⟩
    obtain ⟨a, ha, rfl⟩ := mem_amend.mp hb
    rw [username_amended hk] at hu
    split at hnoted
    next hv =>
      rcases (hq a).mp hnoted with hold | hnew
      · exact .inl ⟨a, ha, hu, hold⟩
      · exact .inr ⟨hu ▸ List.mem_map_of_mem ha, hv.symm.trans hu, hnew⟩
    next => exact .inl ⟨a, ha, hu, hnoted⟩
  · rintro (⟨a, ha, hu, hnoted⟩ | ⟨hu, rfl, himposed⟩)
    · refine ⟨_, mem_amend.mpr ⟨a, ha, rfl⟩, (username_amended hk v a).trans hu, ?_⟩
      split
      · exact (hq a).mpr (.inl hnoted)
      · exact hnoted
    · obtain ⟨a, ha, hu⟩ := List.mem_map.mp hu
      exact ⟨k a, mem_amend.mpr ⟨a, ha, if_pos hu⟩, (hk a).trans hu, (hq a).mpr (.inr himposed)⟩

/-- What a mark does to the record of its username, its write does to the row. -/
structure Changes (u : String) (q : Quarantine) (p : Pool) (m : AccountMark)
    (k : Account → Account) : Prop where
  flags : Pool.SameFlags p (m.update u p).1
  records : p.Sound → (m.update u p).1.accounts = amend u k p.accounts
  rows : ∀ f : Fleet Tables, f.store.readOnly = false →
    ((Rest.write u m (m.update u p).2).finish f).store.accounts = amend u k f.store.accounts
  username : ∀ a, (k a).username = a.username
  noted : ∀ a, q.IsNoted (k a) ↔ q.IsNoted a ∨ m.quarantine? = some q

theorem store_persist {f : Fleet Tables} (h : f.store.readOnly = false) (w : Write) :
    (f.persist w).store = f.store.apply w :=
  congrArg Prod.snd (Tables.write_of_writable h w)

theorem changes_none (hm : m.update u p = (p, none)) (hnone : m.quarantine? = none) :
    Changes u q p m id where
  flags := by rw [hm]; exact .refl p
  records _ := by rw [hm, amend_id]
  rows f _ := by rw [hm, amend_id, Rest.finish]
  username _ := rfl
  noted a := by simp [hnone]

theorem changes_modifyAccount {k : Account → Account} {w : Write}
    (hm : m.update u p = (p.modifyAccount u k, some w))
    (hw : ∀ t : Tables, (t.apply w).accounts = amend u k t.accounts)
    (hk : ∀ a, (k a).username = a.username)
    (hq : ∀ a, q.IsNoted (k a) ↔ q.IsNoted a ∨ m.quarantine? = some q) : Changes u q p m k where
  flags := by rw [hm]; exact Pool.sameFlags_modifyAccount hk p u
  records h := by rw [hm, Pool.accounts_modifyAccount h]
  rows f h := by rw [hm, Rest.finish, store_persist h, hw]
  username := hk
  noted := hq

theorem exists_changes (hq : q.since? = none) (u : String) (p : Pool) (m : AccountMark) :
    ∃ k, Changes u q p m k := by
  have plain {w : Write} (hm : m.update u p = (p.modifyAccount u m.change, some w))
      (hw : ∀ t : Tables, (t.apply w).accounts = amend u m.change t.accounts) :
      ∃ k, Changes u q p m k :=
    ⟨m.change, changes_modifyAccount hm hw m.username_change (isNoted_change_iff hq m)⟩
  have setLevel {n : Int} (hm : m.update u p = (p.setLevel u n, some (.level u n)))
      (hnone : m.quarantine? = none) : ∃ k, Changes u q p m k := by
    refine ⟨_, changes_modifyAccount hm (fun _ => rfl) (fun _ => rfl) fun a => ?_⟩
    cases q <;> simp [Quarantine.IsNoted, hnone]
  cases m with
  | suspended | banned | disabled | invalid | warned => exact plain rfl fun _ => rfl
  | tutorialDone =>
    cases hfind : p.find? u with
    | none => exact ⟨id, changes_none (by simp only [AccountMark.update, hfind]) rfl⟩
    | some a =>
      refine setLevel (n := Pool.tutorialLevel a.level) ?_ rfl
      simp only [AccountMark.update, hfind]
  | level n =>
    cases hfind : p.find? u with
    | none => exact ⟨id, changes_none (by simp only [AccountMark.update, hfind]) rfl⟩
    | some a =>
      by_cases hn : a.level = n
      · exact ⟨id, changes_none (by simp only [AccountMark.update, hfind, if_pos hn]) rfl⟩
      · refine setLevel (n := n) ?_ rfl
        simp only [AccountMark.update, hfind, if_neg hn]

theorem noted_update (hq : q.since? = none) (h : p.Sound) (m : AccountMark) :
    Noted u q (m.update v p).1.accounts ↔
      Noted u q p.accounts ∨ p.exists? u ∧ v = u ∧ m.quarantine? = some q := by
  obtain ⟨k, hk⟩ := exists_changes hq v p m
  rw [hk.records h, Pool.exists?_iff]
  exact noted_amend hk.username hk.noted _

end Overlap

end ScanFleet
