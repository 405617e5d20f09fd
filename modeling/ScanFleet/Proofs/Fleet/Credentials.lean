import ScanFleet.Proofs.Fleet.Bindings

/-! Credentials over whole runs.  From a fleet that has loaded nothing, and as long as no load of
accounts misses the account of some session, the flags of the pool tell exactly which accounts are
bound: no credential is shared and none is lost. -/

namespace ScanFleet.Fleet

variable {σ : Type}

/-- How many sessions an account is bound to. -/
def holders (f : Fleet σ) (u : String) : Nat := f.sessions.list.countP (·.username = some u)

theorem holders_le_one_of_unique {f : Fleet σ} {u : String} (hd : f.sessions.Distinct)
    (hu : ∀ {worker other}, f.boundAccount worker = some u → f.boundAccount other = some u →
      worker = other) : f.holders u ≤ 1 := by
  refine Keyed.countP_le_one hd.of_map fun x hx y hy hpx hpy => ?_
  simp only [decide_eq_true_eq] at hpx hpy
  exact Sessions.eq_of_id hd hx hy (hu
    ((boundAccount_of_mem hd hx).trans hpx) ((boundAccount_of_mem hd hy).trans hpy))

/-- Every bound account is in the pool and bound once, and the flags that are up are those of the
accounts that are bound. -/
structure Exclusive (f : Fleet σ) : Prop where
  known : ∀ x ∈ f.sessions.list, ∀ u ∈ x.username, f.pool.exists? u
  once : ∀ u, f.holders u ≤ 1
  flagged : ∀ (i : Nat) (a : Account), f.pool.accounts[i]? = some a →
    (f.pool.inUse[i]? = some true ↔ f.holders a.username = 1)

namespace Matched

variable {f : Fleet σ}

theorem isInUse_of_mem (h : f.Matched) {x : Session} (hx : x ∈ f.sessions.list) {u : String}
    (hu : x.username = some u) : f.pool.isInUse u :=
  (h.inUse u).mpr ⟨x.id, (boundAccount_of_mem h.sessions hx).trans hu⟩

theorem holders_le_one (h : f.Matched) (u : String) : f.holders u ≤ 1 :=
  holders_le_one_of_unique h.sessions h.unique

theorem holders_eq (h : f.Matched) (u : String) : f.holders u = (f.pool.isInUse u).toNat := by
  have hle := h.holders_le_one u
  cases hu : f.pool.isInUse u with
  | true =>
    obtain ⟨worker, hw⟩ := (h.inUse u).mp hu
    obtain ⟨x, hx, -, hxu⟩ := boundAccount_eq_some hw
    have hpos : 0 < f.holders u := List.countP_pos_iff.mpr ⟨x, hx, by simpa using hxu⟩
    simp
    omega
  | false =>
    refine List.countP_eq_zero.mpr fun x hx hxu => ?_
    rw [h.isInUse_of_mem hx (by simpa using hxu)] at hu
    cases hu

theorem exclusive (h : f.Matched) : f.Exclusive := by
  refine ⟨fun x hx u hu => Pool.exists?_of_isInUse (h.isInUse_of_mem hx hu), h.holders_le_one,
    fun i a ha => ?_⟩
  rw [h.pool.isInUse ha, Option.some.injEq, h.holders_eq]
  cases f.pool.isInUse a.username <;> simp

theorem load (h : f.Matched) {g : Fleet σ} (hs : g.sessions = f.sessions)
    {rows : Option (List Account)} (hp : g.pool = f.pool.load rows)
    (hrows : ∀ r ∈ rows, ∀ x ∈ f.sessions.list, ∀ u ∈ x.username, u ∈ r.map (·.username)) :
    g.Matched := by
  refine h.congr (by rw [hs]; exact h.sessions) (by rw [hp]; exact h.pool.load rows)
    (fun w => by rw [boundAccount, hs]; rfl) fun u => ?_
  rw [hp, Bool.eq_iff_iff, Pool.isInUse_load h.pool]
  refine ⟨And.left, fun hin => ⟨hin, fun r hr => ?_⟩⟩
  obtain ⟨worker, hw⟩ := (h.inUse u).mp hin
  obtain ⟨x, hx, -, hu⟩ := boundAccount_eq_some hw
  exact hrows r hr x hx u hu

end Matched

theorem matched_new (settings : Settings) (store : σ) : (Fleet.new settings store).Matched := by
  refine ⟨Sessions.distinct_empty _, Pool.sound_empty, fun u => ?_, fun h _ => ?_⟩
  · simp [Fleet.new, Pool.isInUse, Pool.position, Pool.empty, boundAccount, Sessions.find?,
      Sessions.empty]
  · cases h

/-! ### Runs -/

variable [Store σ]

/-- The rows that an event loads, if any, have every account that is bound to a session. -/
def LoadsBound (f : Fleet σ) (e : Event σ) : Prop :=
  ∀ rows ∈ f.loadedRows e, ∀ x ∈ f.sessions.list, ∀ u ∈ x.username, u ∈ rows.map (·.username)

instance (f : Fleet σ) : DecidablePred f.LoadsBound := fun e => by
  unfold LoadsBound
  infer_instance

theorem Matched.after {f : Fleet σ} (h : f.Matched) {e : Event σ} (he : f.LoadsBound e) :
    (f.after e).Matched := by
  rcases rebinds_after h.sessions h.pool e with hsteps | ⟨hsessions, hpool⟩
  · exact rebinds_keep Matched.rebinds hsteps h
  · exact h.load hsessions hpool he

/-- Credentials are exclusive in every state of a run in which every load of accounts has those
that are bound. -/
theorem run_exclusive (settings : Settings) (store : σ) (events : List (Event σ))
    (h : Along LoadsBound (Fleet.new settings store) events) :
    ((Fleet.new settings store).run events).Exclusive :=
  (run_keeps (fun _ _ hf he => hf.after he) (matched_new settings store) h).exclusive

/-- Two workers get accounts.  The first one gets another one later; the second one names that
account, passes a ceiling and logs out. -/
def oneShift : List (Event Tables) :=
  [.bootstrap, .initWorker "w1" none, .initWorker "w2" none, .assignAccount "w1" none,
    .importAccounts [⟨"bea", "pw", 30⟩], .bootstrap, .assignAccount "w2" none,
    .importAccounts [⟨"cyd", "pw", 30⟩], .bootstrap, .assignAccount "w1" none,
    .recordRaw ⟨"w2", some "cyd", 31, [7, 7]⟩ none, .reloadAccounts,
    .logout "w2"].map fun op => .perform op .none 10

/-- In the end the flag of the one bound account is up, and no other. -/
theorem run_exclusive_oneShift :
    Along LoadsBound (Fleet.new smallSettings smallStore) oneShift ∧
      ((Fleet.new smallSettings smallStore).run oneShift).Exclusive ∧
      ((Fleet.new smallSettings smallStore).run oneShift).pool.slots.map
          (fun s => (s.account.username, s.inUse)) =
        [("ada", false), ("bea", false), ("cyd", true)] := by
  have loads : Along LoadsBound (Fleet.new smallSettings smallStore) oneShift := by
    decide +kernel
  exact ⟨loads, run_exclusive smallSettings smallStore oneShift loads, by decide +kernel⟩

end ScanFleet.Fleet
