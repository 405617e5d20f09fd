import ScanFleet.Fleet.Reload
import ScanFleet.Proofs.Pool.Merge

/-! What the operations on accounts leave alone.  None of them touches a session or an area, and
those that only note something about an account keep every username and every flag of the pool.
Reloads and imports come down to a merge of the rows that they load. -/

namespace ScanFleet

namespace Pool

/-- The pool after rows were loaded, if any were. -/
def load (p : Pool) : Option (List Account) → Pool
  | none => p
  | some rows => (p.merge rows).2

theorem Sound.load {p : Pool} (h : p.Sound) (rows : Option (List Account)) :
    (p.load rows).Sound := by
  cases rows with
  | none => exact h
  | some rows => exact h.merge rows

/-- A flag goes down in a load only when the account has no row any more. -/
theorem isInUse_load {p : Pool} (h : p.Sound) (rows : Option (List Account)) (u : String) :
    (p.load rows).isInUse u ↔
      p.isInUse u ∧ ∀ r, rows = some r → u ∈ r.map (·.username) := by
  cases rows with
  | none => simp [Pool.load]
  | some rows => simp [Pool.load, isInUse_merge h, row?_isSome_iff, and_comm]

end Pool

namespace Fleet

variable {σ : Type}

/-- `g` has the settings, the sessions and the areas of `f`. -/
structure SameWork (f g : Fleet σ) : Prop where
  settings : g.settings = f.settings
  sessions : g.sessions = f.sessions
  areas : g.areas = f.areas

theorem SameWork.refl (f : Fleet σ) : SameWork f f := ⟨rfl, rfl, rfl⟩

theorem SameWork.trans {f g h : Fleet σ} (h1 : SameWork f g) (h2 : SameWork g h) : SameWork f h :=
  ⟨h2.settings.trans h1.settings, h2.sessions.trans h1.sessions, h2.areas.trans h1.areas⟩

/-- A step that only notes something: the sessions and areas stay, and so do the usernames and
flags of the pool. -/
structure Notes (f g : Fleet σ) : Prop extends SameWork f g where
  flags : Pool.SameFlags f.pool g.pool

theorem Notes.refl (f : Fleet σ) : Notes f f := ⟨.refl f, .refl f.pool⟩

theorem Notes.trans {f g h : Fleet σ} (h1 : Notes f g) (h2 : Notes g h) : Notes f h :=
  ⟨h1.toSameWork.trans h2.toSameWork, h1.flags.trans h2.flags⟩

variable [Store σ]

theorem notes_persist (f : Fleet σ) (w : Write) : Notes f (f.persist w) :=
  ⟨⟨rfl, rfl, rfl⟩, .refl f.pool⟩

theorem notes_persistDevice (f : Fleet σ) (worker : String) (now : Instant) :
    Notes f (f.persistDevice worker now) := by
  unfold persistDevice
  split
  · exact .refl f
  · exact f.notes_persist _

theorem notes_modifyAccount (f : Fleet σ) (u : String) {g : Account → Account}
    (hg : ∀ a, (g a).username = a.username) (w : Write) :
    Notes f ({ f with pool := f.pool.modifyAccount u g }.persist w) :=
  ⟨⟨rfl, rfl, rfl⟩, Pool.sameFlags_modifyAccount hg f.pool u⟩

theorem notes_markSuspended (f : Fleet σ) (u : String) (now : Instant) :
    Notes f (f.markSuspended u now) := f.notes_modifyAccount u (by intro; rfl) _

theorem notes_markBanned (f : Fleet σ) (u : String) (now : Instant) :
    Notes f (f.markBanned u now) := f.notes_modifyAccount u (by intro; rfl) _

theorem notes_markDisabled (f : Fleet σ) (u : String) (now : Instant) :
    Notes f (f.markDisabled u now) := f.notes_modifyAccount u (by intro; rfl) _

theorem notes_markInvalid (f : Fleet σ) (u : String) :
    Notes f (f.markInvalid u) := f.notes_modifyAccount u (by intro; rfl) _

theorem notes_markWarned (f : Fleet σ) (u : String) (now : Instant) :
    Notes f (f.markWarned u now) := f.notes_modifyAccount u (by intro; rfl) _

theorem notes_setLevel (f : Fleet σ) (u : String) (level : Int) : Notes f (f.setLevel u level) := by
  unfold setLevel
  split
  · exact .refl f
  · split
    · exact .refl f
    · exact f.notes_modifyAccount u (by intro; rfl) _

theorem notes_markTutorialDone (f : Fleet σ) (u : String) : Notes f (f.markTutorialDone u) := by
  unfold markTutorialDone
  split
  · exact .refl f
  · exact f.notes_modifyAccount u (by intro; rfl) _

theorem notes_reportAccount (f : Fleet σ) (u : String) (event : AccountEvent) (now : Instant) :
    Notes f (f.reportAccount u event now).2 := by
  unfold reportAccount
  split
  · cases event with
    | banned => exact f.notes_markBanned u now
    | suspended => exact f.notes_markSuspended u now
    | warned => exact f.notes_markWarned u now
    | invalidCredentials =>
      exact (f.notes_markInvalid u).trans ((f.markInvalid u).notes_markDisabled u now)
    | unknownError => exact f.notes_markDisabled u now
  · exact .refl f

/-! ### Selection and release -/

theorem allocate_fst (f : Fleet σ) (accept : Account → Bool) (now : Instant) :
    (f.allocate accept now).1 = (f.pool.allocate accept now).1 := by
  unfold allocate
  split <;> simp_all

theorem allocate_pool (f : Fleet σ) (accept : Account → Bool) (now : Instant) :
    (f.allocate accept now).2.pool = (f.pool.allocate accept now).2 := by
  unfold allocate
  split <;> simp_all [persist]

theorem sameWork_allocate (f : Fleet σ) (accept : Account → Bool) (now : Instant) :
    SameWork f (f.allocate accept now).2 := by
  unfold allocate
  split <;> exact ⟨rfl, rfl, rfl⟩

theorem allocate_none {f : Fleet σ} {accept : Account → Bool} {now : Instant}
    (h : (f.allocate accept now).1 = none) : (f.allocate accept now).2 = f := by
  rw [allocate_fst] at h
  have hpool := Pool.allocate_eq_none h
  unfold allocate
  cases hr : f.pool.allocate accept now with
  | mk selected pool =>
    rw [hr] at h hpool
    obtain rfl : selected = none := h
    exact congrArg ({ f with pool := · }) hpool

theorem notes_allocate {f : Fleet σ} {accept : Account → Bool} {now : Instant}
    (h : (f.allocate accept now).1 = none) : Notes f (f.allocate accept now).2 := by
  rw [allocate_none h]
  exact .refl f

theorem release_pool (f : Fleet σ) (u : String) (now : Instant) :
    (f.release u now).pool = f.pool.release u now := rfl

theorem sameWork_release (f : Fleet σ) (u : String) (now : Instant) :
    SameWork f (f.release u now) := ⟨rfl, rfl, rfl⟩

/-! ### Loading -/

/-- The rows that a reload of the accounts loads, if the store gives them. -/
def reloadRows (f : Fleet σ) : Option (List Account) := (Store.loadAccounts f.store).toOption

/-- The rows that an import of accounts loads, if the store takes the accounts and gives the
rows. -/
def importRows (f : Fleet σ) (accounts : List NewAccount) : Option (List Account) :=
  match Store.insertAccounts accounts f.store with
  | (.error _, _) => none
  | (.ok _, store) => { f with store }.reloadRows

/-- The rows that a startup loads, if the store gives them. -/
def bootstrapRows (f : Fleet σ) (now : Instant) : Option (List Account) :=
  { f with store := (Store.releaseAll now f.store).2 }.reloadRows

theorem reloadAccounts_pool (f : Fleet σ) : f.reloadAccounts.2.pool = f.pool.load f.reloadRows := by
  unfold reloadAccounts reloadRows
  split <;> simp_all [Except.toOption, Pool.load]

theorem sameWork_reloadAccounts (f : Fleet σ) : SameWork f f.reloadAccounts.2 := by
  unfold reloadAccounts
  split <;> exact ⟨rfl, rfl, rfl⟩

theorem importAccounts_snd (f : Fleet σ) (accounts : List NewAccount) :
    (f.importAccounts accounts).2 =
      match Store.insertAccounts accounts f.store with
      | (.error _, store) => { f with store }
      | (.ok _, store) => { f with store }.reloadAccounts.2 := by
  unfold importAccounts
  cases Store.insertAccounts accounts f.store with
  | mk inserted store =>
    cases inserted with
    | error e => rfl
    | ok count =>
      dsimp only
      cases { f with store }.reloadAccounts with
      | mk result g => cases result <;> rfl

theorem importAccounts_pool (f : Fleet σ) (accounts : List NewAccount) :
    (f.importAccounts accounts).2.pool = f.pool.load (f.importRows accounts) := by
  rw [importAccounts_snd, importRows]
  split
  · rfl
  next store h => exact reloadAccounts_pool { f with store }

theorem sameWork_importAccounts (f : Fleet σ) (accounts : List NewAccount) :
    SameWork f (f.importAccounts accounts).2 := by
  rw [importAccounts_snd]
  split
  · exact ⟨rfl, rfl, rfl⟩
  next store h =>
    have hw := sameWork_reloadAccounts { f with store }
    exact ⟨hw.settings, hw.sessions, hw.areas⟩

end Fleet

end ScanFleet
