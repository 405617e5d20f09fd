import ScanFleet.Proofs.Pool.Records

/-! The lending of accounts: whether an account is in use, and when it was selected and released
last.  In a sound pool a selection and a release change that of one account, and marks and levels
change it of none. -/

namespace ScanFleet

/-- What a pool knows of the lending of an account. -/
structure Loan where
  inUse : Bool
  lastSelected : Option Instant
  lastReleased : Option Instant
deriving DecidableEq, Repr

namespace Pool

def loan? (p : Pool) (u : String) : Option Loan :=
  (p.find? u).map fun a => ⟨p.isInUse u, a.lastSelected, a.lastReleased⟩

variable {p q : Pool} {u v : String} {k : Account → Account}

theorem find?_eq (p : Pool) (u : String) : p.find? u = p.accounts.find? (·.username = u) :=
  List.find?_eq_bind_findIdx?_getElem?.symm

theorem find?_of_amend (hk : ∀ a, (k a).username = a.username)
    (h : q.accounts = amend u k p.accounts) (v : String) :
    q.find? v = if v = u then (p.find? v).map k else p.find? v := by
  rw [find?_eq, h, amend, Keyed.find?_map (k := Account.username) (username_amended hk u),
    ← find?_eq]
  cases hv : p.find? v with
  | none => simp
  | some a =>
    rw [find?_eq] at hv
    obtain rfl := Keyed.key_of_find? hv
    rw [Option.map_some, Option.map_some]
    split <;> rfl

/-- Who changes the record of another username, and no flag but that one's, leaves a loan alone. -/
theorem loan?_of_amend (hk : ∀ a, (k a).username = a.username)
    (h : q.accounts = amend u k p.accounts) (hv : v ≠ u) (hflag : q.isInUse v = p.isInUse v) :
    q.loan? v = p.loan? v := by
  rw [loan?, find?_of_amend hk h, if_neg hv, hflag, loan?]

theorem loan?_modifyAccount (h : p.Sound) (hk : ∀ a, (k a).username = a.username)
    (hselected : ∀ a, (k a).lastSelected = a.lastSelected)
    (hreleased : ∀ a, (k a).lastReleased = a.lastReleased) (u v : String) :
    (p.modifyAccount u k).loan? v = p.loan? v := by
  rw [loan?, find?_of_amend hk (accounts_modifyAccount h u k),
    (sameFlags_modifyAccount hk p u).isInUse, loan?]
  split
  · cases p.find? v <;> simp [hselected, hreleased]
  · rfl

theorem loan?_release (h : p.Sound) (hv : v ≠ u) (now : Instant) :
    (p.release u now).loan? v = p.loan? v :=
  loan?_of_amend (Account.username_giveBack now) (accounts_release h u now) hv
    (by rw [isInUse_release h, decide_eq_true hv, Bool.true_and])

theorem loan?_allocate (h : p.Sound) {accept : Account → Bool} {now : Instant} {c : Credentials}
    (hc : (p.allocate accept now).1 = some c) (hv : v ≠ c.username) :
    (p.allocate accept now).2.loan? v = p.loan? v := by
  obtain ⟨a, -, rfl, -, -, -, -, haccounts⟩ := allocate_some h hc
  refine loan?_of_amend (Account.username_select now) haccounts hv ?_
  rw [(isInUse_allocate h hc).2, decide_eq_false hv, Bool.false_or]

end Pool

end ScanFleet
