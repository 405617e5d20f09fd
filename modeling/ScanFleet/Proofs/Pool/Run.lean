import ScanFleet.Proofs.Fleet.Accounts
import ScanFleet.Store.Tables

/-! Runs of operations on the pool of accounts, with a store that may fail and may be edited from
outside at any point. -/

namespace ScanFleet

/-- A change of an account that leaves its flag alone. -/
inductive AccountMark where
  | suspended (now : Instant)
  | banned (now : Instant)
  | disabled (now : Instant)
  | invalid
  | warned (now : Instant)
  | tutorialDone
  | level (level : Int)

/-- An operation on the pool of accounts, or an edit of the store from outside. -/
inductive PoolOperation (σ : Type) where
  | allocate (accept : Account → Bool) (now : Instant)
  | release (username : String) (now : Instant)
  | mark (username : String) (mark : AccountMark)
  | reload
  | importAccounts (accounts : List NewAccount)
  | edit (store : σ)

namespace Fleet

variable {σ : Type} [Store σ]

def mark (f : Fleet σ) (username : String) : AccountMark → Fleet σ
  | .suspended now => f.markSuspended username now
  | .banned now => f.markBanned username now
  | .disabled now => f.markDisabled username now
  | .invalid => f.markInvalid username
  | .warned now => f.markWarned username now
  | .tutorialDone => f.markTutorialDone username
  | .level level => f.setLevel username level

theorem notes_mark (f : Fleet σ) (u : String) (m : AccountMark) : Notes f (f.mark u m) := by
  cases m with
  | suspended now => exact f.notes_markSuspended u now
  | banned now => exact f.notes_markBanned u now
  | disabled now => exact f.notes_markDisabled u now
  | invalid => exact f.notes_markInvalid u
  | warned now => exact f.notes_markWarned u now
  | tutorialDone => exact f.notes_markTutorialDone u
  | level level => exact f.notes_setLevel u level

def afterPool (f : Fleet σ) : PoolOperation σ → Fleet σ
  | .allocate accept now => (f.allocate accept now).2
  | .release username now => f.release username now
  | .mark username mark => f.mark username mark
  | .reload => f.reloadAccounts.2
  | .importAccounts accounts => (f.importAccounts accounts).2
  | .edit store => { f with store }

def runPool (f : Fleet σ) (ops : List (PoolOperation σ)) : Fleet σ := ops.foldl afterPool f

theorem sound_afterPool {f : Fleet σ} (h : f.pool.Sound) (op : PoolOperation σ) :
    (f.afterPool op).pool.Sound := by
  cases op with
  | allocate accept now => rw [afterPool, allocate_pool]; exact h.allocate accept now
  | release u now => exact h.release u now
  | mark u m => exact (f.notes_mark u m).flags.sound h
  | reload => rw [afterPool, reloadAccounts_pool]; exact h.load _
  | importAccounts accounts => rw [afterPool, importAccounts_pool]; exact h.load _
  | edit store => exact h

theorem sound_runPool {f : Fleet σ} (h : f.pool.Sound) (ops : List (PoolOperation σ)) :
    (f.runPool ops).pool.Sound := by
  induction ops generalizing f with
  | nil => exact h
  | cons op ops ih => exact ih (sound_afterPool h op)

def oneAccount : Tables :=
  { Tables.empty with
    accounts := [{ Account.fresh ⟨"ada", "pw", 30⟩ with lastReleased := some 0 }] }

end Fleet

end ScanFleet
