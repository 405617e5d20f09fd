import ScanFleet.Proofs.Fleet.Reconciliation
import ScanFleet.Proofs.Traffic.Ownership

/-! Accounts that leak.  When all requests are done, an account that is in use is bound to a session
of the fleet, or else to one that was removed.  The latter takes a request that selects an account,
is overtaken by a logout of its worker, and then binds the account to the session that it kept,
when no logout is about to unbind that any more. -/

namespace ScanFleet.Traffic

variable {σ : Type} [Store σ]

/-- With a tick a request binds `u` to a session that was removed, and from which no logout is about
to take its account. -/
def BindsLate (t : State σ) (n : Nat) (u : String) : Tick → Prop
  | .arrive _ _ => False
  | .go i =>
    (∃ task area c, t.tasks[i]? = some task ∧ task.stage = .bind n area c ∧ c.username = u) ∧
      n ∈ t.shared.gone.map (·.seq) ∧ ∀ task ∈ t.tasks, task.stage.unbinds n = false

/-- Somewhere in a run `u` is bound late to the session of a number. -/
def LateIn (start : State σ) (ticks : List Tick) (n : Nat) (u : String) : Prop :=
  ∃ before tick rest, ticks = before ++ tick :: rest ∧ BindsLate (start.run before) n u tick

theorem LateIn.concat {start : State σ} {ticks : List Tick} {n : Nat} {u : String}
    (h : LateIn start ticks n u) (tick : Tick) : LateIn start (ticks ++ [tick]) n u := by
  obtain ⟨before, late, rest, rfl, hlate⟩ := h
  exact ⟨before, late, rest ++ [tick], by simp, hlate⟩

/-- A removed session that is bound to an account had it before, or its logout has just begun, or
the account is bound to it with this step. -/
theorem gone_step {t t' : Shared σ} {s s' : Stage} {now : Instant} (h : Step now s t s' t')
    {y : Session} (hy : y ∈ t'.gone) {u : String} (hu : y.username = some u) :
    s'.unbinds y.seq ∨
      (s.unbinds y.seq = false ∧ ∃ x ∈ t.gone, x.seq = y.seq ∧ x.username = some u) ∨
      y.seq ∈ t.gone.map (·.seq) ∧ ∃ area c, s = .bind y.seq area c ∧ c.username = u := by
  cases h with
  | work h =>
    obtain ⟨k, hk, hgone⟩ := h.gone
    rw [hgone] at hy
    obtain ⟨x, hx, rfl⟩ := List.mem_map.mp hy
    rw [hk.username] at hu
    exact .inr (.inl ⟨h.unbinds _, x, hx, (hk.seq x).symm, hu⟩)
  | enter worker host hholds hsessions => exact .inr (.inl ⟨rfl, y, hy, rfl, hu⟩)
  | @remove _ worker x hx =>
    rcases List.mem_append.mp hy with hold | hnew
    · exact .inr (.inl ⟨rfl, y, hold, rfl, hu⟩)
    · rw [List.mem_singleton.mp hnew]
      exact .inl (by simp [Stage.unbinds])
  | select accept hc => exact .inr (.inl ⟨rfl, y, hy, rfl, hu⟩)
  | @bind _ n area c s' hholds hsessions =>
    obtain ⟨x, hx, rfl⟩ := List.mem_map.mp hy
    unfold changed at hu ⊢
    split at hu
    next hn =>
      rw [if_pos hn]
      refine .inr (.inr ⟨List.mem_map.mpr ⟨x, hx, rfl⟩, area, c, ?_, Option.some.inj hu⟩)
      rw [← hn]
      rfl
    next hn =>
      rw [if_neg hn]
      exact .inr (.inl ⟨rfl, x, hx, rfl, hu⟩)
  | @take _ n s s' hs hholds hsessions =>
    obtain ⟨x, hx, rfl⟩ := List.mem_map.mp hy
    unfold changed at hu ⊢
    split at hu
    next hn => cases hu
    next hn =>
      rw [if_neg hn]
      refine .inr (.inl ⟨?_, x, hx, rfl, hu⟩)
      rcases hs with rfl | ⟨named, rfl⟩
      · simpa [Stage.unbinds] using Ne.symm hn
      · rfl
  | release => exact .inr (.inl ⟨rfl, y, hy, rfl, hu⟩)

/-- A removed session that is bound to an account is about to lose it, or got it late. -/
def Explained (start : State σ) (ticks : List Tick) : Prop :=
  ∀ x ∈ (start.run ticks).shared.gone, ∀ u, x.username = some u →
    (∃ task ∈ (start.run ticks).tasks, task.stage.unbinds x.seq) ∨ LateIn start ticks x.seq u

theorem run_concat_tick (start : State σ) (ticks : List Tick) (tick : Tick) :
    start.run (ticks ++ [tick]) = (start.run ticks).after tick :=
  List.foldl_concat ..

omit [Store σ] in
/-- Whoever is about to unbind a session stays so while another request goes on. -/
theorem pending_of_other {t : State σ} {before later : List Task} {task task' : Task} {n : Nat}
    (htasks : t.tasks = before ++ task :: later) (hother : task.stage.unbinds n = false)
    (h : ∃ task ∈ t.tasks, task.stage.unbinds n) :
    ∃ task ∈ before ++ task' :: later, task.stage.unbinds n := by
  obtain ⟨pending, hmem, hn⟩ := h
  rw [htasks] at hmem
  rcases List.mem_append.mp hmem with hbefore | hmem
  · exact ⟨pending, List.mem_append_left _ hbefore, hn⟩
  · rcases List.mem_cons.mp hmem with rfl | hlater
    · rw [hother] at hn
      cases hn
    · exact ⟨pending, List.mem_append_right _ (List.mem_cons_of_mem _ hlater), hn⟩

theorem Explained.concat {start : State σ} (hbalanced : ∀ ticks, (start.run ticks).Balanced)
    {ticks : List Tick} (h : Explained start ticks) (tick : Tick) :
    Explained start (ticks ++ [tick]) := by
  intro y hy u hu
  rw [run_concat_tick] at hy ⊢
  cases tick with
  | arrive request now =>
    rcases h y hy u hu with ⟨task, htask, hpending⟩ | hlate
    · exact .inl ⟨task, List.mem_append_left _ htask, hpending⟩
    · exact .inr (hlate.concat _)
  | go i =>
    rcases (start.run ticks).after_go i with hstay | ⟨before, task, later, htasks, hi, hgo⟩
    · rw [hstay] at hy ⊢
      exact (h y hy u hu).imp_right (·.concat _)
    · have hstep := step_next task.now (hbalanced ticks).sound.sessions task.stage
      rw [hgo] at hy ⊢
      rcases gone_step hstep hy hu with hnew | ⟨hs, x, hx, hseq, hxu⟩ | ⟨hgone, area, c, hs, hc⟩
      · exact .inl ⟨_, List.mem_append_right _ List.mem_cons_self, hnew⟩
      · rw [← hseq]
        rcases h x hx u hxu with hpending | hlate
        · exact .inl (pending_of_other htasks (by rw [hseq]; exact hs) hpending)
        · exact .inr (hlate.concat _)
      · by_cases hpending : ∃ task ∈ (start.run ticks).tasks, task.stage.unbinds y.seq
        · exact .inl (pending_of_other htasks (by rw [hs]; rfl) hpending)
        · refine .inr ⟨ticks, .go i, [], by simp, ⟨task, area, c, hi, hs, hc⟩, hgone, ?_⟩
          intro other hother
          by_contra hunbinds
          exact hpending ⟨other, hother, by simpa using hunbinds⟩

theorem explained_run (start : State σ) (hgone : start.shared.gone = [])
    (hbalanced : ∀ ticks, (start.run ticks).Balanced) (ticks : List Tick) :
    Explained start ticks := by
  induction ticks using List.reverseRecOn with
  | nil =>
    intro x hx
    change x ∈ start.shared.gone at hx
    rw [hgone] at hx
    cases hx
  | append_singleton ticks tick ih => exact .concat hbalanced ih tick

/-! ### Accounts when all requests are done -/

omit [Store σ] in
theorem held_of_isDone {t : State σ} (h : t.isDone) (u : String) : t.held u = 0 := by
  refine List.sum_eq_zero_iff_forall_eq_nat.mpr fun n hn => ?_
  obtain ⟨task, htask, rfl⟩ := List.mem_map.mp hn
  exact Stage.holds_of_isDone (List.all_eq_true.mp h task htask) u

omit [Store σ] in
theorem balanced_idle {f : Fleet σ} (h : f.Matched) (ho : f.sessions.Ordered) :
    (State.idle f).Balanced := by
  refine ⟨sound_idle h.sessions h.pool ho, fun _ htask => (List.not_mem_nil htask).elim,
    fun u => ?_⟩
  have hbound : (State.idle f).shared.bound u = f.holders u := by
    rw [Shared.bound, Shared.objects, State.idle, List.append_nil, Fleet.holders]
  rw [hbound]
  exact h.holders_eq u

/-- When all requests are done, an account is in use exactly if one session is bound to it, and no
account is bound twice.  That session is one of the fleet, or it was removed and got the account
late. -/
theorem traffic_accounts (settings : Settings) (store : σ) (events : List (Event σ))
    (hloads : Fleet.Along Fleet.LoadsBound (Fleet.new settings store) events) (ticks : List Tick)
    (hdone : ((State.idle ((Fleet.new settings store).run events)).run ticks).isDone) (u : String) :
    let start := State.idle ((Fleet.new settings store).run events)
    let t := start.run ticks
    t.shared.bound u ≤ 1 ∧ (t.shared.fleet.pool.isInUse u ↔ t.shared.bound u = 1) ∧
      (t.shared.fleet.pool.isInUse u → t.shared.fleet.IsBound u ∨
        ∃ x ∈ t.shared.gone, x.username = some u ∧ LateIn start ticks x.seq u) := by
  intro start t
  have hmatched : ((Fleet.new settings store).run events).Matched :=
    Fleet.run_keeps (fun _ _ hf he => hf.after he) (Fleet.matched_new settings store) hloads
  have hordered := (Fleet.ordered_new settings store).run (Fleet.sound_new settings store) events
  have hstart : start.Balanced := balanced_idle hmatched hordered.sessions
  have howners : t.shared.bound u = (t.shared.fleet.pool.isInUse u).toNat := by
    have hboth := (hstart.run ticks).owners u
    rwa [held_of_isDone hdone] at hboth
  have hle := Bool.toNat_le (t.shared.fleet.pool.isInUse u)
  refine ⟨by omega, ?_, fun hin => ?_⟩
  · rw [← Bool.toNat_eq_one]
    omega
  · rw [hin] at howners
    have hpos : 0 < t.shared.bound u := by
      simp at howners
      omega
    obtain ⟨x, hx, hxu⟩ := List.countP_pos_iff.mp hpos
    rw [decide_eq_true_eq] at hxu
    rcases List.mem_append.mp hx with hlist | hgone
    · exact .inl ⟨x, hlist, hxu⟩
    · refine .inr ⟨x, hgone, hxu, ?_⟩
      rcases explained_run start rfl hstart.run ticks x hgone u hxu with
        ⟨task, htask, hunbinds⟩ | hlate
      · have hfinished := List.all_eq_true.mp hdone task htask
        rw [Stage.unbinds_of_isDone hfinished] at hunbinds
        cases hunbinds
      · exact hlate

/-- A worker is bound to an area. -/
def hired : List (Event Tables) :=
  [.perform .bootstrap .none 10, .perform (.initWorker "w" none) .none 10]

/-- A request selects an account.  Before it binds that, the worker logs out, and the logout comes
to its end. -/
def overtaken : List Tick :=
  [.arrive (.account "w" none) 10, .go 0, .go 0, .go 0, .arrive (.logout "w") 10] ++
    List.replicate 5 (.go 1) ++ List.replicate 3 (.go 0)

theorem traffic_accounts_overtaken :
    let start := State.idle ((Fleet.new Fleet.smallSettings Fleet.smallStore).run hired)
    let t := start.run overtaken
    Fleet.Along Fleet.LoadsBound (Fleet.new Fleet.smallSettings Fleet.smallStore) hired ∧
      t.isDone ∧ t.shared.fleet.pool.isInUse "ada" ∧
      (t.shared.fleet.IsBound "ada" ∨
        ∃ x ∈ t.shared.gone, x.username = some "ada" ∧ LateIn start overtaken x.seq "ada") := by
  have loads : Fleet.Along Fleet.LoadsBound
      (Fleet.new Fleet.smallSettings Fleet.smallStore) hired := by decide +kernel
  have done : ((State.idle ((Fleet.new Fleet.smallSettings Fleet.smallStore).run hired)).run
      overtaken).isDone := by decide +kernel
  have inUse : ((State.idle ((Fleet.new Fleet.smallSettings Fleet.smallStore).run hired)).run
      overtaken).shared.fleet.pool.isInUse "ada" := by decide +kernel
  have accounts := traffic_accounts Fleet.smallSettings Fleet.smallStore hired loads overtaken done
    "ada"
  exact ⟨loads, done, inUse, accounts.2.2 inUse⟩

/-- All requests are done and no session is left, but the account is in use. -/
theorem traffic_overtaken_leak :
    let t := (State.idle ((Fleet.new Fleet.smallSettings Fleet.smallStore).run hired)).run overtaken
    t.isDone ∧ t.shared.fleet.pool.isInUse "ada" ∧ t.shared.fleet.sessions.list = [] := by
  decide +kernel

/-- Nothing leaks when the request binds the account before the logout looks at it. -/
example :
    let t := (State.idle ((Fleet.new Fleet.smallSettings Fleet.smallStore).run hired)).run
      ([.arrive (.account "w" none) 10, .go 0, .go 0, .go 0, .arrive (.logout "w") 10, .go 1] ++
        List.replicate 3 (.go 0) ++ List.replicate 5 (.go 1))
    t.isDone ∧ t.shared.fleet.pool.isInUse "ada" = false := by decide +kernel

end ScanFleet.Traffic
