import ScanFleet.Proofs.Pool.Run

/-! Exclusive use of accounts.  Over every run of operations on the pool, an account that was
selected stays in use until its username is released or rows without it are loaded; so it is not
selected a second time before that. -/

namespace ScanFleet.Fleet

variable {σ : Type} [Store σ]

/-- An operation sets a username free: it releases it, or it loads rows without it. -/
def Frees (f : Fleet σ) (username : String) : PoolOperation σ → Prop
  | .release u _ => u = username
  | .reload => ∃ rows, f.reloadRows = some rows ∧ username ∉ rows.map (·.username)
  | .importAccounts accounts =>
    ∃ rows, f.importRows accounts = some rows ∧ username ∉ rows.map (·.username)
  | _ => False

theorem isInUse_afterPool {f : Fleet σ} (h : f.pool.Sound) {u : String}
    (hu : f.pool.isInUse u) {op : PoolOperation σ} (hop : ¬ f.Frees u op) :
    (f.afterPool op).pool.isInUse u := by
  cases op with
  | allocate accept now =>
    rw [afterPool, allocate_pool]
    cases ha : (f.pool.allocate accept now).1 with
    | none => rw [Pool.allocate_eq_none ha]; exact hu
    | some c => simp [(Pool.isInUse_allocate h ha).2, hu]
  | release v now =>
    rw [afterPool, release_pool, Pool.isInUse_release h]
    simp only [Frees] at hop
    simp [hu, Ne.symm hop]
  | mark v m => exact ((f.notes_mark v m).flags.isInUse u).trans hu
  | reload =>
    rw [afterPool, reloadAccounts_pool, Pool.isInUse_load h]
    exact ⟨hu, fun rows hr => by_contra fun hm => hop ⟨rows, hr, hm⟩⟩
  | importAccounts accounts =>
    rw [afterPool, importAccounts_pool, Pool.isInUse_load h]
    exact ⟨hu, fun rows hr => by_contra fun hm => hop ⟨rows, hr, hm⟩⟩
  | edit store => exact hu

/-- In a run, a username that is in use stays so, or some operation sets it free. -/
theorem isInUse_runPool {f : Fleet σ} (h : f.pool.Sound) {u : String} (hu : f.pool.isInUse u)
    (ops : List (PoolOperation σ)) :
    (f.runPool ops).pool.isInUse u ∨
      ∃ pre op post, ops = pre ++ op :: post ∧ (f.runPool pre).Frees u op := by
  induction ops generalizing f with
  | nil => exact .inl hu
  | cons op ops ih =>
    by_cases hop : f.Frees u op
    · exact .inr ⟨[], op, ops, rfl, hop⟩
    · rcases ih (sound_afterPool h op) (isInUse_afterPool h hu hop) with
        hi | ⟨pre, o, post, rfl, ho⟩
      · exact .inl hi
      · exact .inr ⟨op :: pre, o, post, rfl, ho⟩

/-- In every state that a run of pool operations reaches, there are as many flags as accounts, the
usernames are distinct, and the flag looked up under a username is its account's own.  When an
account is selected there, and selected again after further operations, one of these set its
username free: a release, or a load of rows without it. -/
theorem pool_exclusive (settings : Settings) (store : σ) (before : List (PoolOperation σ)) :
    let f := (Fleet.new settings store).runPool before
    f.pool.inUse.length = f.pool.accounts.length ∧
    f.pool.usernames.Nodup ∧
    (∀ (i : Nat) (a : Account), f.pool.accounts[i]? = some a →
      f.pool.inUse[i]? = some (f.pool.isInUse a.username)) ∧
    ∀ (accept accept' : Account → Bool) (now now' : Instant) (c c' : Credentials)
      (between : List (PoolOperation σ)),
      (f.allocate accept now).1 = some c →
      (((f.allocate accept now).2.runPool between).allocate accept' now').1 = some c' →
      c'.username = c.username →
      ∃ pre op post, between = pre ++ op :: post ∧
        ((f.allocate accept now).2.runPool pre).Frees c.username op := by
  intro f
  have hf : f.pool.Sound := sound_runPool Pool.sound_empty before
  refine ⟨hf.aligned, hf.distinct, fun i a ha => hf.isInUse ha, ?_⟩
  intro accept accept' now now' c c' between hc hc' he
  rw [allocate_fst] at hc hc'
  have hg : (f.allocate accept now).2.pool.Sound := by
    rw [allocate_pool]; exact hf.allocate accept now
  have hu : (f.allocate accept now).2.pool.isInUse c.username := by
    rw [allocate_pool, (Pool.isInUse_allocate hf hc).2]
    simp
  rcases isInUse_runPool hg hu between with hi | hfree
  · have hout := (Pool.isInUse_allocate (sound_runPool hg between) hc').1
    rw [he, hi] at hout
    cases hout
  · exact hfree

/-- The only row of the store is gone for one reload and comes back. -/
def rowGone : List (PoolOperation Tables) :=
  [.mark "ada" (.disabled 0), .edit .empty, .reload, .edit oneAccount, .reload]

/-- An account whose row was gone is selected again without a release. -/
theorem pool_exclusive_rowGone :
    let f := (Fleet.new default oneAccount).runPool [.reload]
    let g := (f.allocate (fun _ => true) 1).2
    (f.allocate (fun _ => true) 1).1 = some ⟨"ada", "pw"⟩ ∧
    ((g.runPool rowGone).allocate (fun _ => true) 2).1 = some ⟨"ada", "pw"⟩ ∧
    ∃ pre op post, rowGone = pre ++ op :: post ∧ (g.runPool pre).Frees "ada" op := by
  have first : (((Fleet.new default oneAccount).runPool [.reload]).allocate (fun _ => true) 1).1 =
      some ⟨"ada", "pw"⟩ := by decide +kernel
  have second : ((((Fleet.new default oneAccount).runPool [.reload]).allocate (fun _ => true)
      1).2.runPool rowGone |>.allocate (fun _ => true) 2).1 = some ⟨"ada", "pw"⟩ := by
    decide +kernel
  exact ⟨first, second,
    (pool_exclusive default oneAccount [.reload]).2.2.2 _ _ _ _ _ _ rowGone first second rfl⟩

end ScanFleet.Fleet
