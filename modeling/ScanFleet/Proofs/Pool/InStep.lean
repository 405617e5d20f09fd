import ScanFleet.Proofs.Pool.Records
import ScanFleet.Proofs.Pool.Run

/-! The pool and the store in step.  Every operation on accounts changes a record of the pool and a
row of the store in the same way.  So over a store in memory that takes its writes and is not edited
from outside, records and rows stay equal after a reload, and another reload changes nothing. -/

namespace ScanFleet

/-- What a mark changes in the record of an account. -/
def AccountMark.change : AccountMark → Account → Account
  | .suspended now, a => { a with suspended := true, lastSuspended := some now }
  | .banned now, a => { a with banned := true, lastBanned := some now }
  | .disabled now, a => { a with disabled := true, lastDisabled := some now }
  | .invalid, a => { a with invalid := true }
  | .warned now, a => { a with warned := true, warnExpiration := some (now + warnDuration) }
  | .tutorialDone, a => { a with level := Pool.tutorialLevel a.level }
  | .level n, a => { a with level := n }

theorem AccountMark.username_change (m : AccountMark) (a : Account) :
    (m.change a).username = a.username := by
  cases m <;> rfl

theorem AccountMark.lastReleased_change (m : AccountMark) (a : Account) :
    (m.change a).lastReleased = a.lastReleased := by
  cases m <;> rfl

/-- Whether a mark is made without a look at the record. -/
def AccountMark.IsPlain : AccountMark → Prop
  | .tutorialDone | .level _ => False
  | _ => True

/-- An operation of the pool's own, and not an edit from outside. -/
def PoolOperation.IsOwn {σ : Type} : PoolOperation σ → Prop
  | .edit _ => False
  | _ => True

/-- Whether an operation changes the record of one account at most. -/
def PoolOperation.IsEntry {σ : Type} : PoolOperation σ → Prop
  | .allocate _ _ | .release _ _ | .mark _ _ => True
  | _ => False

namespace Fleet

variable {f g : Fleet Tables} {u : String} {k : Account → Account}

/-! ### Changes of a record and its row -/

/-- The record of a username changed in the pool, and its row in the store in the same way. -/
structure Amended (u : String) (k : Account → Account) (f g : Fleet Tables) : Prop where
  records : g.pool.accounts = amend u k f.pool.accounts
  rows : g.store.accounts = amend u k f.store.accounts
  readOnly : g.store.readOnly = f.store.readOnly

/-- The store takes writes, and every record of the pool is the row of its username. -/
structure InStep (f : Fleet Tables) : Prop where
  sound : f.pool.Sound
  distinct : f.store.Distinct
  writable : f.store.readOnly = false
  known : ∀ a ∈ f.pool.accounts, a ∈ f.store.accounts

/-- The records of the pool are the rows of the store. -/
structure Mirrors (f : Fleet Tables) : Prop extends InStep f where
  loaded : ∀ a ∈ f.store.accounts, a ∈ f.pool.accounts

theorem amended_persist (hw : f.store.readOnly = false) {p : Pool} {w : Write}
    (hp : p.accounts = amend u k f.pool.accounts)
    (hrows : (f.store.apply w).accounts = amend u k f.store.accounts) :
    Amended u k f ({ f with pool := p }.persist w) := by
  have hstore : ({ f with pool := p }.persist w).store = f.store.apply w :=
    congrArg Prod.snd (Tables.write_of_writable hw w)
  exact ⟨hp, by rw [hstore, hrows], by rw [hstore, Tables.readOnly_apply]⟩

namespace InStep

theorem eq_of_username (h : f.InStep) {a b : Account} (ha : a ∈ f.store.accounts)
    (hb : b ∈ f.store.accounts) (he : a.username = b.username) : a = b :=
  Keyed.eq_of_key (k := Account.username) h.distinct ha hb he

theorem amended_setLevel (h : f.InStep) (u : String) (level : Int) :
    f.setLevel u level = f ∨ Amended u (AccountMark.level level).change f (f.setLevel u level) := by
  unfold setLevel
  split
  · exact .inl rfl
  · split
    · exact .inl rfl
    · exact .inr (amended_persist h.writable (Pool.accounts_modifyAccount h.sound u _) rfl)

theorem amended_markTutorialDone (h : f.InStep) (u : String) :
    f.markTutorialDone u = f ∨
      Amended u AccountMark.tutorialDone.change f (f.markTutorialDone u) := by
  unfold markTutorialDone
  split
  next => exact .inl rfl
  next a ha =>
    -- The level that is written is that of the record, which is the row's as well.
    obtain ⟨hmem, hu⟩ := (Pool.find?_eq_some_iff h.sound).mp ha
    have hsame : ∀ b ∈ f.store.accounts, b.username = u →
        { b with level := Pool.tutorialLevel a.level } = AccountMark.tutorialDone.change b :=
      fun b hb he => by
        rw [h.eq_of_username hb (h.known a hmem) (he.trans hu.symm)]
        rfl
    refine .inr (amended_persist h.writable ?_ (amend_congr hsame))
    rw [Pool.setLevel, Pool.accounts_modifyAccount h.sound]
    exact amend_congr fun b hb he => hsame b (h.known b hb) he

theorem amended_plain (h : f.InStep) (u : String) {m : AccountMark} (hm : m.IsPlain) :
    Amended u m.change f (f.mark u m) := by
  have hpool := Pool.accounts_modifyAccount h.sound u
  cases m with
  | suspended now => exact amended_persist h.writable (hpool _) rfl
  | banned now => exact amended_persist h.writable (hpool _) rfl
  | disabled now => exact amended_persist h.writable (hpool _) rfl
  | invalid => exact amended_persist h.writable (hpool _) rfl
  | warned now => exact amended_persist h.writable (hpool _) rfl
  | tutorialDone | level => exact hm.elim

/-- A mark does nothing, or it changes the record and the row of its username. -/
theorem amended_mark (h : f.InStep) (u : String) (m : AccountMark) :
    f.mark u m = f ∨ Amended u m.change f (f.mark u m) := by
  cases m with
  | tutorialDone => exact h.amended_markTutorialDone u
  | level level => exact h.amended_setLevel u level
  | suspended | banned | disabled | invalid | warned => exact .inr (h.amended_plain u trivial)

theorem amended_release (h : f.InStep) (u : String) (now : Instant) :
    Amended u (·.giveBack now) f (f.release u now) :=
  amended_persist h.writable (Pool.accounts_release h.sound u now) rfl

/-- A selection changes nothing, or the record and the row of an account that was free. -/
theorem amended_allocate (h : f.InStep) (accept : Account → Bool) (now : Instant) :
    (f.allocate accept now).2 = f ∨ ∃ a ∈ f.pool.accounts,
      (f.allocate accept now).1 = some a.credentials ∧ a.isUsable now ∧ a.lastReleased ≠ none ∧
      f.pool.isInUse a.username = false ∧
      Amended a.username (·.select now) f (f.allocate accept now).2 := by
  unfold allocate
  split
  next pool hn =>
    refine .inl ?_
    have hsame : (f.pool.allocate accept now).2 = f.pool := Pool.allocate_eq_none (by rw [hn])
    rw [hn] at hsame
    rw [show pool = f.pool from hsame]
  next c pool hc =>
    obtain ⟨a, ha, hcred, hfree, husable, -, ht, hrecords⟩ :=
      Pool.allocate_some (c := c) h.sound (by rw [hc])
    rw [hc] at hrecords
    refine .inr ⟨a, ha, by rw [hcred], husable, ht, hfree, ?_⟩
    rw [← hcred]
    exact amended_persist h.writable hrecords rfl

theorem amended_afterPool (h : f.InStep) {op : PoolOperation Tables} (hop : op.IsEntry) :
    f.afterPool op = f ∨
      ∃ u k, (∀ a, (k a).username = a.username) ∧ Amended u k f (f.afterPool op) := by
  cases op with
  | allocate accept now =>
    exact (h.amended_allocate accept now).imp_right fun ⟨a, _, _, _, _, _, ha⟩ =>
      ⟨a.username, _, Account.username_select now, ha⟩
  | release u now => exact .inr ⟨u, _, Account.username_giveBack now, h.amended_release u now⟩
  | mark u m =>
    exact (h.amended_mark u m).imp_right fun ha => ⟨u, _, m.username_change, ha⟩
  | reload | importAccounts | edit => exact hop.elim

theorem amended (h : f.InStep) (hg : Amended u k f g) (hk : ∀ a, (k a).username = a.username)
    (hsound : g.pool.Sound) : g.InStep := by
  refine ⟨hsound, ?_, hg.readOnly.trans h.writable, fun a ha => ?_⟩
  · rw [Tables.Distinct, hg.rows, usernames_amend hk]
    exact h.distinct
  · rw [hg.records] at ha
    rw [hg.rows]
    exact List.map_subset _ h.known ha

theorem afterEntry (h : f.InStep) {op : PoolOperation Tables} (hop : op.IsEntry) :
    (f.afterPool op).InStep := by
  rcases h.amended_afterPool hop with hn | ⟨u, k, hk, ha⟩
  · rwa [hn]
  · exact h.amended ha hk (sound_afterPool h.sound op)

end InStep

theorem Mirrors.afterEntry (h : f.Mirrors) {op : PoolOperation Tables} (hop : op.IsEntry) :
    (f.afterPool op).Mirrors := by
  refine ⟨h.toInStep.afterEntry hop, fun a ha => ?_⟩
  rcases h.amended_afterPool hop with hn | ⟨u, k, hk, hg⟩
  · rw [hn] at ha ⊢
    exact h.loaded a ha
  · rw [hg.rows] at ha
    rw [hg.records]
    exact List.map_subset _ h.loaded ha

/-! ### Loads -/

/-- The fleet with the rows of a store merged into its pool. -/
def refill (f : Fleet Tables) (t : Tables) : Fleet Tables :=
  { f with store := t, pool := (f.pool.merge t.accounts).2 }

theorem mirrors_refill (h : f.pool.Sound) {t : Tables} (ht : t.Distinct)
    (hw : t.readOnly = false) : (f.refill t).Mirrors where
  sound := h.merge t.accounts
  distinct := ht
  writable := hw
  known _ ha := (Pool.mem_accounts_merge h ht).mp ha
  loaded _ ha := (Pool.mem_accounts_merge h ht).mpr ha

theorem reloadAccounts_tables (f : Fleet Tables) :
    f.reloadAccounts = (.ok (f.pool.merge f.store.accounts).1, f.refill f.store) := rfl

theorem importAccounts_tables (hw : f.store.readOnly = false) (accounts : List NewAccount) :
    (f.importAccounts accounts).2 = f.refill (f.store.insertAccounts accounts).2 := by
  obtain ⟨count, hins⟩ := Tables.insertAccounts_of_writable hw accounts
  have hstore : Store.insertAccounts accounts f.store = (.ok count, _) := hins
  rw [importAccounts_snd, hstore]
  rfl

theorem mirrors_importAccounts (h : f.InStep) (accounts : List NewAccount) :
    (f.importAccounts accounts).2.Mirrors := by
  have hgains := Tables.gains_insertAccounts h.distinct h.writable accounts
  rw [importAccounts_tables h.writable]
  exact mirrors_refill h.sound hgains.distinct (hgains.readOnly.trans h.writable)

/-- A load of rows that the pool mirrors finds nothing to do. -/
theorem Mirrors.reloadAccounts (h : f.Mirrors) : f.reloadAccounts = (.ok ⟨0, 0, 0⟩, f) := by
  rw [reloadAccounts_tables, refill,
    Pool.merge_same h.sound h.distinct fun a => ⟨h.known a, h.loaded a⟩]

/-! ### Runs -/

theorem Mirrors.afterPool (h : f.Mirrors) {op : PoolOperation Tables} (hop : op.IsOwn) :
    (f.afterPool op).Mirrors := by
  cases op with
  | allocate | release | mark => exact h.afterEntry trivial
  | reload =>
    rw [Fleet.afterPool, h.reloadAccounts]
    exact h
  | importAccounts accounts => exact mirrors_importAccounts h.toInStep accounts
  | edit store => exact hop.elim

theorem Mirrors.runPool (h : f.Mirrors) {ops : List (PoolOperation Tables)}
    (hops : ∀ op ∈ ops, op.IsOwn) : (f.runPool ops).Mirrors := by
  induction ops generalizing f with
  | nil => exact h
  | cons op ops ih =>
    exact ih (h.afterPool (hops op List.mem_cons_self)) fun o ho =>
      hops o (List.mem_cons_of_mem op ho)

/-- After a reload and any operations on the pool that follow it, every record of the pool equals
the row of its username, and every row is a record.  Another reload counts nothing and changes
nothing. -/
theorem reload_runPool_mirrors (f : Fleet Tables) (hpool : f.pool.Sound) (hrows : f.store.Distinct)
    (hwrites : f.store.readOnly = false) (ops : List (PoolOperation Tables))
    (hops : ∀ op ∈ ops, op.IsOwn) :
    let g := f.reloadAccounts.2.runPool ops
    (∀ a ∈ g.pool.accounts, g.store.account? a.username = some a) ∧
    (∀ a ∈ g.store.accounts, a ∈ g.pool.accounts) ∧
    g.reloadAccounts = (.ok ⟨0, 0, 0⟩, g) := by
  intro g
  have h : g.Mirrors := Mirrors.runPool (mirrors_refill hpool hrows hwrites) hops
  exact ⟨fun a ha => (Tables.account?_eq_some_iff h.distinct).mpr ⟨h.known a ha, rfl⟩, h.loaded,
    h.reloadAccounts⟩

/-- Marks of known and unknown usernames while accounts are selected, given back and added. -/
def errands : List (PoolOperation Tables) :=
  [.allocate (fun _ => true) 1, .mark "ada" (.warned 2), .mark "eve" (.banned 2),
    .importAccounts [⟨"bea", "pw", 0⟩, ⟨"ada", "new", 1⟩], .mark "bea" .tutorialDone,
    .release "ada" 3, .release "eve" 3, .mark "ada" (.level 31), .mark "bea" (.disabled 4)]

theorem reload_runPool_mirrors_errands :
    let f := Fleet.new default oneAccount
    let g := f.reloadAccounts.2.runPool errands
    f.pool.Sound ∧ f.store.Distinct ∧ f.store.readOnly = false ∧ (∀ op ∈ errands, op.IsOwn) ∧
      (∀ a ∈ g.pool.accounts, g.store.account? a.username = some a) ∧
      g.reloadAccounts = (.ok ⟨0, 0, 0⟩, g) ∧
      g.pool.accounts.map (fun a => (a.username, a.level, a.warnExpiration, a.lastReleased)) =
        [("ada", 31, some 604800002, some 3), ("bea", 1, none, none)] := by
  intro f g
  have hrows : f.store.Distinct := by decide +kernel
  have hops : ∀ op ∈ errands, op.IsOwn := by simp [errands, PoolOperation.IsOwn]
  obtain ⟨hrecords, -, hreload⟩ :=
    reload_runPool_mirrors f Pool.sound_empty hrows rfl errands hops
  exact ⟨Pool.sound_empty, hrows, rfl, hops, hrecords, hreload, by decide +kernel⟩

end Fleet

end ScanFleet
