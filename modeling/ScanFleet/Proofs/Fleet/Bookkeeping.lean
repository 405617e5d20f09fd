import ScanFleet.Proofs.Fleet.Entries

/-! The books of accounts over whole runs.  An event makes entries, or it loads the rows of a store.
As long as the store takes its writes and nobody else edits its accounts, pool and store stay in
step, and so every load has the accounts that are bound. -/

namespace ScanFleet

/-- The time at which an event happens; an edit of the store has none. -/
def Event.time? {σ : Type} : Event σ → Option Instant
  | .perform _ _ now => some now
  | .edit _ => none

/-- The times at which events happen, in the order of the events. -/
def times {σ : Type} (events : List (Event σ)) : List Instant := events.filterMap Event.time?

namespace Fleet

variable {f g : Fleet Tables} {e : Event Tables}

/-- An edit of the store from outside leaves the rows of accounts as they are, and the store goes on
taking writes. -/
def LeavesAccounts (f : Fleet Tables) : Event Tables → Prop
  | .edit store => store.accounts = f.store.accounts ∧ store.readOnly = f.store.readOnly
  | .perform _ _ _ => True

instance (f : Fleet Tables) : DecidablePred f.LeavesAccounts
  | .edit _ => inferInstanceAs (Decidable (_ ∧ _))
  | .perform _ _ _ => .isTrue trivial

/-! ### What an event does to the books -/

/-- The store whose rows of accounts an event loads, if it loads any. -/
def loadedStore (f : Fleet Tables) : Event Tables → Option Tables
  | .perform .bootstrap _ now => some (f.store.releaseAll now).2
  | .perform .reloadAccounts _ _ => some f.store
  | .perform (.importAccounts accounts) _ _ => some (f.store.insertAccounts accounts).2
  | _ => none

/-- What an event makes of the books. -/
inductive Booked (f : Fleet Tables) : Event Tables → Fleet Tables → Prop
  | same {e : Event Tables} {g : Fleet Tables} (h : g.books = f.books) : Booked f e g
  | entries {op : Operation} {services : Services} {now : Instant} {g : Fleet Tables}
      (h : Entries now f.IsHeld f g) : Booked f (.perform op services now) g
  | load {e : Event Tables} {t : Tables} {g : Fleet Tables} (ht : f.loadedStore e = some t)
      (h : g.books = (f.refill t).books) : Booked f e g

theorem books_bootstrap (f : Fleet Tables) (now : Instant) :
    (f.bootstrap now).2.books = (f.refill (f.store.releaseAll now).2).books := by
  have haccounts : f.bootstrapAccounts now = f.refill (f.store.releaseAll now).2 := rfl
  rw [← haccounts]
  rcases bootstrap_cases f now with ⟨-, h⟩ | ⟨rows, -, h, -⟩
  · rw [h]
  · rw [h, books_registerAll]

theorem InStep.booked (h : f.InStep) (he : f.LeavesAccounts e) : Booked f e (f.after e) := by
  cases e with
  | edit store => exact .same (by simp only [after, books, he.1, he.2])
  | perform op services now =>
    by_cases hop : op.LoadsAccounts
    · cases op with
      | bootstrap => exact .load rfl (f.books_bootstrap now)
      | reloadAccounts => exact .load rfl rfl
      | importAccounts accounts =>
        exact .load rfl (congrArg books (importAccounts_tables h.writable accounts))
      | _ => exact hop.elim
    · by_cases hplan : op.PlansAreas
      · exact .same (f.books_perform services now hplan)
      · exact .entries (f.entries_perform services now hop hplan)

/-- The rows that are loaded are those of the store, some of them stamped, and new ones. -/
theorem InStep.loadedStore (h : f.InStep) {t : Tables} (ht : f.loadedStore e = some t) :
    t.Distinct ∧ t.readOnly = false ∧
      ∀ a ∈ f.store.accounts, a ∈ t.accounts ∨ ∃ now, Tables.stampReleased now a ∈ t.accounts := by
  have hw := h.writable
  cases e with
  | edit store => cases ht
  | perform op services now =>
    cases op with
    | bootstrap =>
      cases ht
      have hrows := Tables.accounts_releaseAll hw now
      refine ⟨?_, by simp [Tables.releaseAll, hw], fun a ha => .inr ⟨now, ?_⟩⟩
      · rw [Tables.Distinct, hrows, List.map_map]
        exact (List.map_congr_left fun a _ => Tables.username_stampReleased now a) ▸ h.distinct
      · rw [hrows]
        exact List.mem_map_of_mem ha
    | reloadAccounts =>
      cases ht
      exact ⟨h.distinct, hw, fun a ha => .inl ha⟩
    | importAccounts accounts =>
      cases ht
      have hgains := Tables.gains_insertAccounts h.distinct hw accounts
      exact ⟨hgains.distinct, hgains.readOnly.trans hw, fun a ha => .inl (hgains.kept a ha)⟩
    | _ => cases ht

theorem loadedRows_tables (hw : f.store.readOnly = false) (e : Event Tables) :
    f.loadedRows e = (f.loadedStore e).map (·.accounts) := by
  cases e with
  | edit store => rfl
  | perform op services now =>
    cases op with
    | importAccounts accounts =>
      obtain ⟨count, hins⟩ := Tables.insertAccounts_of_writable hw accounts
      have hstore : Store.insertAccounts accounts f.store = (.ok count, _) := hins
      rw [loadedRows, importRows, hstore]
      rfl
    | _ => rfl

/-! ### What entries and events keep -/

section Entry

variable {now : Instant} {held : String → Prop}

/-- An entry leaves the books alone or is an operation on the pool. -/
theorem Entry.books_or_afterPool (h : Entry now held f g) :
    g.books = f.books ∨ ∃ op : PoolOperation Tables, op.IsEntry ∧ g = f.afterPool op := by
  cases h with
  | other h => exact .inl h.books
  | mark u hm => exact .inr ⟨.mark u _, trivial, rfl⟩
  | allocate accept => exact .inr ⟨.allocate accept now, trivial, rfl⟩
  | release hu => exact .inr ⟨.release _ now, trivial, rfl⟩

theorem InStep.entry (h : f.InStep) (he : Entry now held f g) : g.InStep := by
  rcases he.books_or_afterPool with hb | ⟨op, hop, rfl⟩
  · exact h.congr hb
  · exact h.afterEntry hop

theorem Mirrors.entry (h : f.Mirrors) (he : Entry now held f g) : g.Mirrors := by
  rcases he.books_or_afterPool with hb | ⟨op, hop, rfl⟩
  · exact h.congr hb
  · exact h.afterEntry hop

/-- Entries add no account to the pool and remove none. -/
theorem InStep.usernames_entry (h : f.InStep) (he : Entry now held f g) :
    g.pool.usernames = f.pool.usernames := by
  rcases he.books_or_afterPool with hb | ⟨op, hop, rfl⟩
  · exact congrArg (fun b : Books => b.pool.usernames) hb
  · rcases h.amended_afterPool hop with hn | ⟨u, k, hk, ha⟩
    · rw [hn]
    · rw [Pool.usernames, ha.records, usernames_amend hk]
      rfl

end Entry

theorem InStep.mirrors_load (h : f.InStep) {t : Tables} (ht : f.loadedStore e = some t)
    (hg : g.books = (f.refill t).books) : g.Mirrors := by
  obtain ⟨hdistinct, hw, -⟩ := h.loadedStore ht
  exact (mirrors_refill h.sound hdistinct hw).congr hg

theorem InStep.after (h : f.InStep) (he : f.LeavesAccounts e) : (f.after e).InStep := by
  have hbooked := h.booked he
  generalize f.after e = g at hbooked ⊢
  cases hbooked with
  | same hb => exact h.congr hb
  | entries hentries => exact hentries.keep (fun hf hentry => InStep.entry hf hentry) h
  | load ht hg => exact (h.mirrors_load ht hg).toInStep

theorem Mirrors.after (h : f.Mirrors) (he : f.LeavesAccounts e) : (f.after e).Mirrors := by
  have hbooked := h.booked he
  generalize f.after e = g at hbooked ⊢
  cases hbooked with
  | same hb => exact h.congr hb
  | entries hentries => exact hentries.keep (fun hf hentry => Mirrors.entry hf hentry) h
  | load ht hg => exact h.mirrors_load ht hg

/-- Who is given an account gets one of the pool that is free, may be used and has a time of
release. -/
theorem assignAccount_ok {worker : String} {host : Option String} {now : Instant}
    {c : Credentials} (h : f.pool.Sound) (hc : (f.assignAccount worker host now).1 = .ok c) :
    ∃ a ∈ f.pool.accounts, a.credentials = c ∧ f.pool.isInUse a.username = false ∧
      a.isUsable now ∧ a.lastReleased ≠ none := by
  rcases f.assignAccount_cases worker host now with ⟨_, hr⟩ | ⟨_, c', -, hselect, hr⟩ <;>
    rw [hr] at hc <;> cases hc
  rw [allocate_fst] at hselect
  obtain ⟨a, ha, hcred, hfree, husable, -, ht, -⟩ := Pool.allocate_some h hselect
  exact ⟨a, ha, hcred, hfree, husable, ht⟩

/-! ### Runs -/

/-- Pool and store are in step, and the flags of the pool match what workers are bound to. -/
structure Orderly (f : Fleet Tables) : Prop extends InStep f, Matched f

theorem orderly_new (settings : Settings) {store : Tables} (hrows : store.Distinct)
    (hwrites : store.readOnly = false) : (Fleet.new settings store).Orderly :=
  ⟨⟨Pool.sound_empty, hrows, hwrites, fun _ ha => by cases ha⟩, matched_new settings store⟩

namespace Orderly

theorem isInUse_of_isHeld (h : f.Orderly) {u : String} (hu : f.IsHeld u) : f.pool.isInUse u :=
  (h.inUse u).mpr hu

theorem loadsBound (h : f.Orderly) (e : Event Tables) : f.LoadsBound e := by
  intro rows hrows x hx u hu
  rw [loadedRows_tables h.writable] at hrows
  obtain ⟨t, ht, rfl⟩ := Option.map_eq_some_iff.mp hrows
  -- A bound account is in the pool, so the store has a row for it, and loads keep every row.
  have hex := Pool.exists?_of_isInUse (h.toMatched.isInUse_of_mem hx hu)
  obtain ⟨a, ha, rfl⟩ := List.mem_map.mp (Pool.exists?_iff.mp hex)
  rcases (h.loadedStore ht).2.2 a (h.known a ha) with hmem | ⟨now, hmem⟩
  · exact List.mem_map_of_mem hmem
  · rw [← Tables.username_stampReleased now a]
    exact List.mem_map_of_mem hmem

theorem after (h : f.Orderly) (he : f.LeavesAccounts e) : (f.after e).Orderly :=
  ⟨h.toInStep.after he, h.toMatched.after (h.loadsBound e)⟩

theorem run (h : f.Orderly) {events : List (Event Tables)}
    (hevents : Along LeavesAccounts f events) : (f.run events).Orderly :=
  run_keeps (fun _ _ hf he => Orderly.after hf he) h hevents

end Orderly

end Fleet

end ScanFleet
