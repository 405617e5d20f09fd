import Mathlib.Algebra.GroupWithZero.Nat
import ScanFleet.Proofs.Fleet.Lapses
import ScanFleet.Proofs.Traffic.Steps

/-! Who owns an account while requests are handled at the same time: a session that is bound to
it, removed or not, or a request that has it in hand.  The flags that are up are those of the
accounts that somebody owns, and nobody owns an account together with somebody else. -/

namespace ScanFleet.Traffic

/-! ### Sessions and their accounts -/

namespace Shared

variable {σ : Type}

def numbers (t : Shared σ) : List Nat := t.objects.map (·.seq)

/-- How many sessions are bound to an account. -/
def bound (t : Shared σ) (u : String) : Nat := t.objects.countP (·.username = some u)

/-- The fleet is in order, and no two sessions have one number. -/
structure Sound (t : Shared σ) : Prop where
  sessions : t.fleet.sessions.Distinct
  pool : t.fleet.pool.Sound
  numbered : t.numbers.Nodup
  below : ∀ n ∈ t.numbers, n < t.fleet.sessions.next

end Shared

def accountOf (x : Session) : Nat × Option String := (x.seq, x.username)

section

variable {σ : Type} {t t' : Shared σ} {s s' : Stage} {now : Instant}

theorem numbers_eq (t : Shared σ) : t.numbers = (t.objects.map accountOf).map Prod.fst := by
  rw [List.map_map]
  rfl

theorem bound_eq (t : Shared σ) (u : String) :
    t.bound u = (t.objects.map accountOf).countP (·.2 = some u) := by
  rw [List.countP_map]
  rfl

theorem KeepsAccount.accountOf {k : Session → Session} (h : KeepsAccount k) :
    Traffic.accountOf ∘ k = Traffic.accountOf :=
  funext fun x => Prod.ext (h.seq x) (h.username x)

theorem accounts_works (h : Works s t s' t') :
    t'.objects.map accountOf = t.objects.map accountOf := by
  obtain ⟨k, hk, hlist⟩ := h.list
  obtain ⟨k', hk', hgone⟩ := h.gone
  rw [Shared.objects, hlist, hgone, List.map_append, List.map_map, List.map_map, hk.accountOf,
    hk'.accountOf, ← List.map_append]
  rfl

theorem bound_works (h : Works s t s' t') (u : String) : t'.bound u = t.bound u := by
  rw [bound_eq, accounts_works h, ← bound_eq]

/-- Whoever is seen has the account that it had; a new session has none. -/
theorem accounts_touch (t : Shared σ) (worker : String) (host : Option String) (now : Instant) :
    let t' : Shared σ := { t with fleet := t.fleet.touch worker host now }
    ((t'.objects.map accountOf).Perm (t.objects.map accountOf) ∧
        t'.fleet.sessions.next = t.fleet.sessions.next) ∨
      (t'.objects.map accountOf).Perm ((t.fleet.sessions.next, none) :: t.objects.map accountOf) ∧
        t'.fleet.sessions.next = t.fleet.sessions.next + 1 := by
  intro t'
  have hk : KeepsAccount fun x => if x.id = worker then x.touch host now else x := by
    constructor <;> intro x <;> split <;> rfl
  have hlist : t'.fleet.sessions.list = _ := Sessions.list_touch t.fleet.sessions worker host now
  have hnext : t'.fleet.sessions.next = (t.fleet.sessions.ensure worker now).next := rfl
  rw [Shared.objects, List.map_append, hlist, List.map_append, List.map_map, hk.accountOf,
    Shared.objects, List.map_append, hnext, Sessions.ensure]
  cases t.fleet.sessions.find? worker with
  | some x =>
    refine .inl ⟨?_, rfl⟩
    rw [Option.isSome_some, if_pos rfl, List.map_nil, List.append_nil]
  | none =>
    refine .inr ⟨?_, rfl⟩
    rw [Option.isSome_none, if_neg (by simp), List.append_assoc]
    exact List.perm_middle

/-- A logout keeps the session that it removes. -/
theorem objects_remove (hd : t.fleet.sessions.Distinct) {worker : String} {x : Session}
    (hx : t.fleet.sessions.find? worker = some x) :
    (⟨{ t.fleet with sessions := t.fleet.sessions.remove worker }, t.gone ++ [x]⟩ :
      Shared σ).objects.Perm t.objects := by
  have hmem := Sessions.mem_of_find? hx
  have hid := Sessions.id_of_find? hx
  have herase : t.fleet.sessions.list.filter (·.id ≠ worker) = t.fleet.sessions.list.erase x := by
    rw [List.Nodup.erase_eq_filter hd.of_map]
    refine List.filter_congr fun y hy => ?_
    by_cases he : y.id = worker
    · simp [Sessions.eq_of_id hd hy hmem (he.trans hid.symm), hid]
    · have hne : y ≠ x := fun hyx => he (hyx ▸ hid)
      simp [he, hne]
  have hlist : (x :: t.fleet.sessions.list.filter (·.id ≠ worker)).Perm t.fleet.sessions.list := by
    rw [herase]
    exact (List.perm_cons_erase hmem).symm
  rw [Shared.objects, ← List.append_assoc]
  exact (List.perm_append_singleton x _).trans (hlist.append_right t.gone)

theorem bound_touch (t : Shared σ) (worker : String) (host : Option String) (now : Instant)
    (u : String) :
    ({ t with fleet := t.fleet.touch worker host now } : Shared σ).bound u = t.bound u := by
  rw [bound_eq, bound_eq]
  rcases accounts_touch t worker host now with ⟨hperm, -⟩ | ⟨hperm, -⟩
  · exact hperm.countP_eq _
  · rw [hperm.countP_eq, List.countP_cons_of_neg (by simp)]

theorem numbers_modify (t : Shared σ) (n : Nat) {k : Session → Session}
    (hk : ∀ x, (k x).seq = x.seq) : (t.modify n k).numbers = t.numbers := by
  rw [Shared.numbers, objects_modify, List.map_map]
  exact List.map_congr_left fun x _ => seq_changed hk n x

theorem bound_pos (ht : t.Sound) {n : Nat} (hn : n ∈ t.numbers) {u : String}
    (hu : (t.object n).username = some u) : 0 < t.bound u := by
  obtain ⟨x, hx, rfl⟩ := List.mem_map.mp hn
  rw [object_of_mem ht.numbered hx] at hu
  exact List.countP_pos_iff.mpr ⟨x, hx, by simp [hu]⟩

/-- A session that gets another account is counted with that one and no more with the old one. -/
theorem bound_modify (ht : t.Sound) {n : Nat} (hn : n ∈ t.numbers) (k : Session → Session)
    (u : String) :
    (t.modify n k).bound u + (if (t.object n).username = some u then 1 else 0) =
      t.bound u + (if (k (t.object n)).username = some u then 1 else 0) := by
  obtain ⟨x, hx, rfl⟩ := List.mem_map.mp hn
  rw [object_of_mem ht.numbered hx, Shared.bound, objects_modify, Shared.bound]
  simpa using countP_changed (fun y => decide (y.username = some u)) k ht.numbered hx

end

/-! ### What a step keeps -/

section

variable {σ : Type} [Store σ] {t t' : Shared σ} {s s' : Stage} {now : Instant}

theorem numbers_step (ht : t.Sound) (h : Step now s t s' t') :
    (t'.numbers.Perm t.numbers ∧ t'.fleet.sessions.next = t.fleet.sessions.next) ∨
      t'.numbers.Perm (t.fleet.sessions.next :: t.numbers) ∧
        t'.fleet.sessions.next = t.fleet.sessions.next + 1 := by
  cases h with
  | work h =>
    refine .inl ⟨?_, h.next⟩
    rw [numbers_eq, numbers_eq, accounts_works h]
  | enter worker host hholds hsessions =>
    rw [numbers_eq, numbers_eq]
    rcases accounts_touch t worker host now with ⟨hperm, hnext⟩ | ⟨hperm, hnext⟩
    · exact .inl ⟨hperm.map _, hnext⟩
    · exact .inr ⟨hperm.map _, hnext⟩
  | remove hx => exact .inl ⟨(objects_remove ht.sessions hx).map _, rfl⟩
  | select accept hc =>
    have hsessions := (Fleet.sameWork_allocate t.fleet accept now).sessions
    rw [Shared.numbers, Shared.objects, hsessions]
    exact .inl ⟨.refl _, rfl⟩
  | @bind _ n area c s' hholds hsessions =>
    exact .inl ⟨.of_eq (numbers_modify t n (by intro; rfl)), rfl⟩
  | @take _ n s s' hs hholds hsessions =>
    exact .inl ⟨.of_eq (numbers_modify t n (by intro; rfl)), rfl⟩
  | release => exact .inl ⟨.refl _, rfl⟩

theorem numbers_subset (ht : t.Sound) (h : Step now s t s' t') : t.numbers ⊆ t'.numbers := by
  rcases numbers_step ht h with ⟨hperm, -⟩ | ⟨hperm, -⟩
  · exact hperm.symm.subset
  · exact List.Subset.trans (List.subset_cons_self _ _) hperm.symm.subset

theorem distinct_step (hd : t.fleet.sessions.Distinct) (h : Step now s t s' t') :
    t'.fleet.sessions.Distinct := by
  cases h with
  | work h =>
    obtain ⟨k, hk, hlist⟩ := h.list
    rw [Sessions.Distinct, hlist]
    exact Sessions.Distinct.map hk.id hd
  | enter worker host hholds hsessions => exact hd.touch worker host now
  | remove hx => exact hd.remove _
  | select accept hc =>
    rw [(Fleet.sameWork_allocate t.fleet accept now).sessions]
    exact hd
  | bind hholds hsessions => exact Sessions.Distinct.map (id_changed (by intro; rfl) _) hd
  | take hs hholds hsessions => exact Sessions.Distinct.map (id_changed (by intro; rfl) _) hd
  | release => exact hd

theorem poolSound_step (hp : t.fleet.pool.Sound) (h : Step now s t s' t') :
    t'.fleet.pool.Sound := by
  cases h with
  | work h => exact h.flags.sound hp
  | select accept hc =>
    rw [Fleet.allocate_pool]
    exact hp.allocate accept now
  | release => exact hp.release _ now
  | enter | remove | bind | take => exact hp

theorem sound_step (ht : t.Sound) (h : Step now s t s' t') : t'.Sound := by
  have hfresh : t.fleet.sessions.next ∉ t.numbers := fun hn => Nat.lt_irrefl _ (ht.below _ hn)
  refine ⟨distinct_step ht.sessions h, poolSound_step ht.pool h, ?_, fun n hn => ?_⟩
  · rcases numbers_step ht h with ⟨hperm, -⟩ | ⟨hperm, -⟩
    · exact hperm.nodup_iff.mpr ht.numbered
    · exact hperm.nodup_iff.mpr (List.nodup_cons.mpr ⟨hfresh, ht.numbered⟩)
  · rcases numbers_step ht h with ⟨hperm, hnext⟩ | ⟨hperm, hnext⟩
    · rw [hnext]
      exact ht.below n (hperm.subset hn)
    · rw [hnext]
      rcases List.mem_cons.mp (hperm.subset hn) with rfl | hold
      · exact Nat.lt_succ_self _
      · exact Nat.lt_succ_of_lt (ht.below n hold)

/-- A request keeps sessions that there are. -/
theorem sessions_step (ht : t.Sound) (h : Step now s t s' t') (hs : s.sessions ⊆ t.numbers) :
    s'.sessions ⊆ t'.numbers := by
  have hold : s.sessions ⊆ t'.numbers := List.Subset.trans hs (numbers_subset ht h)
  cases h with
  | work h => exact List.Subset.trans h.sessions hold
  | enter worker host hholds hsessions =>
    have hfind := Sessions.find?_touch_eq t.fleet.sessions worker host now worker
    rw [if_pos rfl] at hfind
    rw [hsessions, numberOf_mem hfind]
    have hmem := List.mem_append_left t.gone (Sessions.mem_of_find? hfind)
    exact List.cons_subset.mpr ⟨List.mem_map_of_mem hmem, List.nil_subset _⟩
  | remove hx =>
    have hremove : Step now _ t _ _ := .remove hx
    have hmem := List.mem_map_of_mem (f := (·.seq))
      (List.mem_append_left t.gone (Sessions.mem_of_find? hx))
    have hstay := numbers_subset ht hremove hmem
    exact List.cons_subset.mpr ⟨hstay, List.nil_subset _⟩
  | select accept hc => exact hold
  | bind hholds hsessions => exact List.Subset.trans hsessions hold
  | take hs' hholds hsessions =>
    rcases hs' with rfl | ⟨named, rfl⟩ <;> exact List.Subset.trans hsessions hold
  | release => exact hold

/-- A step hands an account from one owner to another, or it takes a free one, or it gives one back
that it owned alone. -/
theorem owners_step (ht : t.Sound) (h : Step now s t s' t') (hs : s.sessions ⊆ t.numbers)
    (others : String → Nat)
    (hold : ∀ u, t.bound u + (others u + s.holds u) = (t.fleet.pool.isInUse u).toNat)
    (u : String) : t'.bound u + (others u + s'.holds u) = (t'.fleet.pool.isInUse u).toNat := by
  have hu := hold u
  cases h with
  | work h => rw [bound_works h, h.holds, h.flags.isInUse, hu]
  | enter worker host hholds hsessions =>
    rw [bound_touch, hholds]
    exact hu
  | remove hx =>
    rw [Shared.bound, (objects_remove ht.sessions hx).countP_eq, ← Shared.bound]
    exact hu
  | @select _ n area c accept hc =>
    have hsessions := (Fleet.sameWork_allocate t.fleet accept now).sessions
    rw [Fleet.allocate_fst] at hc
    obtain ⟨hfree, hflags⟩ := Pool.isInUse_allocate ht.pool hc
    rw [Shared.bound, Shared.objects, hsessions, ← Shared.objects, ← Shared.bound,
      Fleet.allocate_pool, hflags]
    simp only [Stage.holds] at hu ⊢
    by_cases huc : u = c.username
    · rw [huc, hfree] at hu
      rw [huc]
      simp at hu ⊢
      omega
    · simp [huc, Ne.symm huc] at hu ⊢
      omega
  | @bind _ n area c s' hholds hsessions =>
    have hn : n ∈ t.numbers := hs (by simp [Stage.sessions])
    -- The request has the account in hand, so the session does not have it yet.
    have hne : (t.object n).username ≠ some c.username := by
      intro hsame
      have hpos := bound_pos ht hn hsame
      have hc := hold c.username
      have hle := Bool.toNat_le (t.fleet.pool.isInUse c.username)
      simp only [Stage.holds, if_true] at hc
      omega
    have hdisplaced : (t.object n).displaced c.username = (t.object n).username := by
      rw [Session.displaced]
      cases hv : (t.object n).username with
      | none => rfl
      | some v =>
        have hvc : v ≠ c.username := fun he => hne (he ▸ hv)
        simp [Option.filter, hvc]
    have hbound := bound_modify ht hn (·.bindAccount c.username) u
    have hnew : ((t.object n).bindAccount c.username).username = some u ↔ c.username = u := by
      simp [Session.bindAccount]
    have hpool : (t.modify n (·.bindAccount c.username)).fleet.pool = t.fleet.pool := rfl
    simp only [hnew] at hbound
    rw [hholds, hdisplaced, hpool]
    simp only [Stage.holds] at hu
    omega
  | @take _ n s s' hs' hholds hsessions =>
    have hn : n ∈ t.numbers := hs (by rcases hs' with rfl | ⟨named, rfl⟩ <;> simp [Stage.sessions])
    have hnone : s.holds u = 0 := by rcases hs' with rfl | ⟨named, rfl⟩ <;> rfl
    have hbound := bound_modify ht hn (·.unbindAccount) u
    have hnew : ((t.object n).unbindAccount).username ≠ some u := by simp [Session.unbindAccount]
    have hpool : (t.modify n (·.unbindAccount)).fleet.pool = t.fleet.pool := rfl
    rw [if_neg hnew] at hbound
    rw [hholds, hpool]
    omega
  | @release _ v next =>
    have hbound : ({ t with fleet := t.fleet.release v now } : Shared σ).bound u = t.bound u := rfl
    have hle := Bool.toNat_le (t.fleet.pool.isInUse u)
    rw [hbound, Fleet.release_pool, Pool.isInUse_release ht.pool]
    simp only [Stage.holds] at hu
    by_cases huv : u = v
    · rw [if_pos huv.symm] at hu
      simp [huv] at hu hle ⊢
      omega
    · simp [huv, Ne.symm huv] at hu ⊢
      omega

omit [Store σ] in
theorem sound_idle {f : Fleet σ} (hd : f.sessions.Distinct) (hp : f.pool.Sound)
    (ho : f.sessions.Ordered) : (⟨f, []⟩ : Shared σ).Sound := by
  have hnumbers : (⟨f, []⟩ : Shared σ).numbers = f.sessions.list.map (·.seq) := by
    rw [Shared.numbers, Shared.objects, List.append_nil]
  refine ⟨hd, hp, ?_, fun n hn => ?_⟩
  · rw [hnumbers]
    exact ho.nodup
  · rw [hnumbers] at hn
    obtain ⟨x, hx, rfl⟩ := List.mem_map.mp hn
    exact ho.below x hx

end

/-! ### Owners in every state -/

namespace State

variable {σ : Type}

/-- How often requests have an account in hand. -/
def held (t : State σ) (u : String) : Nat := (t.tasks.map (·.stage.holds u)).sum

/-- The flag of an account is up when it has an owner, and it has one at most. -/
structure Balanced (t : State σ) : Prop where
  sound : t.shared.Sound
  kept : ∀ task ∈ t.tasks, task.stage.sessions ⊆ t.shared.numbers
  owners : ∀ u, t.shared.bound u + t.held u = (t.shared.fleet.pool.isInUse u).toNat

variable [Store σ]

/-- A request that goes on changes what is shared and its own stage. -/
theorem after_go (t : State σ) (i : Nat) :
    t.after (.go i) = t ∨ ∃ before task later, t.tasks = before ++ task :: later ∧
      t.tasks[i]? = some task ∧
      t.after (.go i) = ⟨(task.stage.next task.now t.shared).2,
        before ++ { task with stage := (task.stage.next task.now t.shared).1 } :: later⟩ := by
  simp only [after]
  split
  next => exact .inl rfl
  next task htask =>
    obtain ⟨before, later, htasks, hset⟩ := Keyed.split_of_getElem? htask
    exact .inr ⟨before, task, later, htasks, htask, by rw [hset]⟩

theorem Balanced.after {t : State σ} (h : t.Balanced) (tick : Tick) : (t.after tick).Balanced := by
  cases tick with
  | arrive request now =>
    refine ⟨h.sound, List.forall_mem_append.mpr ⟨h.kept, ?_⟩, fun u => ?_⟩
    · exact List.forall_mem_singleton.mpr (List.nil_subset _)
    · have hheld : (t.after (.arrive request now)).held u = t.held u := by
        simp [held, State.after, Stage.holds]
      rw [hheld]
      exact h.owners u
  | go i =>
    rcases t.after_go i with hstay | ⟨before, task, later, htasks, -, hgo⟩
    · rw [hstay]
      exact h
    · have hmem : task ∈ t.tasks := by simp [htasks]
      have hkept := h.kept task hmem
      have hstep := step_next task.now h.sound.sessions task.stage
      rw [hgo]
      refine ⟨sound_step h.sound hstep, ?_, fun u => ?_⟩
      · have hall := h.kept
        have hstay := numbers_subset h.sound hstep
        rw [htasks, List.forall_mem_append, List.forall_mem_cons] at hall
        obtain ⟨hbefore, -, hlater⟩ := hall
        rw [List.forall_mem_append, List.forall_mem_cons]
        exact ⟨fun other hother => List.Subset.trans (hbefore other hother) hstay,
          sessions_step h.sound hstep hkept,
          fun other hother => List.Subset.trans (hlater other hother) hstay⟩
      · have hold (v : String) : t.shared.bound v + ((before.map (·.stage.holds v)).sum +
            (later.map (·.stage.holds v)).sum + task.stage.holds v) =
            (t.shared.fleet.pool.isInUse v).toNat := by
          rw [← h.owners v, held, htasks]
          simp
          omega
        have hnew := owners_step h.sound hstep hkept _ hold u
        rw [← hnew, held]
        simp
        omega

theorem Balanced.run {t : State σ} (h : t.Balanced) (ticks : List Tick) :
    (t.run ticks).Balanced := by
  induction ticks generalizing t with
  | nil => exact h
  | cons tick ticks ih => exact ih (h.after tick)

end State

end ScanFleet.Traffic
