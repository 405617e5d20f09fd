import ScanFleet.Fleet.Accounts
import ScanFleet.Proofs.Pool.Records

/-! Reloads of the accounts.  The pool after one is described by the pool before it and the rows
that were loaded: which usernames it holds and in which order, with which records and flags, and
what the counts of the reload count. -/

namespace ScanFleet

namespace Pool

variable {p : Pool} {rows : List Account} {u : String}

/-- `a` is the last of the rows of its username. -/
def IsLast (rows : List Account) (a : Account) : Prop :=
  ∃ earlier later, rows = earlier ++ a :: later ∧ ∀ b ∈ later, b.username ≠ a.username

/-- `q` and `counts` are what a merge of `rows` into `p` is meant to give. -/
structure Merged (p : Pool) (rows : List Account) (counts : ReloadCounts) (q : Pool) : Prop where
  sound : q.Sound
  loaded : ∀ u, u ∈ q.usernames ↔ u ∈ rows.map (·.username)
  records : ∀ a ∈ q.accounts, IsLast rows a
  /-- Known usernames keep their order, and new ones follow in ascending order. -/
  order : ∃ fresh, q.usernames = (p.usernames.filter (· ∈ rows.map (·.username))) ++ fresh ∧
    fresh.Pairwise (· < ·) ∧ ∀ u ∈ fresh, u ∉ p.usernames
  keptFlags : ∀ (i j : Nat) (a b : Account), p.accounts[i]? = some a → q.accounts[j]? = some b →
    b.username = a.username → q.inUse[j]? = p.inUse[i]?
  newFlags : ∀ (j : Nat) (b : Account), q.accounts[j]? = some b → b.username ∉ p.usernames →
    q.inUse[j]? = some false
  added : counts.added = q.usernames.countP (· ∉ p.usernames)
  updated : counts.updated =
    p.accounts.countP fun a => ∃ b ∈ q.accounts, b.username = a.username ∧ b ≠ a
  removed : counts.removed = p.usernames.countP (· ∉ rows.map (·.username))

theorem isLast_of_row? {a : Account} (h : row? rows u = some a) : IsLast rows a := by
  obtain ⟨-, later, earlier, hrev, hlater⟩ := List.find?_eq_some_iff_append.mp h
  refine ⟨earlier.reverse, later.reverse, ?_, fun b hb => ?_⟩
  · rw [← List.reverse_reverse rows, hrev]
    simp
  · have hne := hlater b (List.mem_reverse.mp hb)
    rw [username_of_row? h]
    simpa using hne

theorem isSome_row?_eq (rows : List Account) (u : String) :
    (row? rows u).isSome = decide (u ∈ rows.map (·.username)) := by
  rw [Bool.eq_iff_iff, row?_isSome_iff, decide_eq_true_eq]

/-! ### The order of new usernames -/

theorem sublist_eraseDups (l : List String) : l.eraseDups.Sublist l := by
  match l with
  | [] => simp
  | u :: l =>
    rw [List.eraseDups_cons]
    exact ((sublist_eraseDups _).trans List.filter_sublist).cons_cons u
termination_by l.length
decreasing_by exact Nat.lt_succ_of_le (List.length_filter_le _ l)

theorem pairwise_newUsernames (p : Pool) (rows : List Account) :
    (p.newUsernames rows).Pairwise (· < ·) := by
  have hsorted : (((rows.map (·.username)).filter (! p.exists? ·)).mergeSort).Pairwise
      fun u v => decide (u ≤ v) :=
    List.pairwise_mergeSort (by simpa using fun u v w => String.le_trans)
      (by simpa using String.le_total) _
  have hne : (p.newUsernames rows).Pairwise (· ≠ ·) := nodup_eraseDups _
  refine (hsorted.sublist (sublist_eraseDups _)).imp₂ (fun u v hle hne => ?_) hne
  rw [decide_eq_true_eq] at hle
  exact String.not_le.mp fun hge => hne (String.le_antisymm hle hge)

/-! ### Counts -/

theorem added_merge (h : p.Sound) (rows : List Account) :
    (p.merge rows).1.added = (p.merge rows).2.usernames.countP (· ∉ p.usernames) := by
  have hlen : (p.merge rows).1.added = (p.newUsernames rows).length := by
    have hnames := @usernames_added rows (p.newUsernames rows)
      fun u hu => (mem_newUsernames.mp hu).1
    have hadded : ((p.newUsernames rows).filterMap (addedSlot rows)).length =
        ((p.newUsernames rows).filterMap (row? rows)).length := by
      simp [List.length_filterMap_eq_countP, addedSlot]
    rw [← hnames, List.length_map, hadded]
    rfl
  have hkept : (p.usernames.filter fun u => (row? rows u).isSome).countP (· ∉ p.usernames) = 0 :=
    List.countP_eq_zero.mpr fun u hu => by simp [List.mem_of_mem_filter hu]
  have hnew : (p.newUsernames rows).countP (· ∉ p.usernames) = (p.newUsernames rows).length :=
    List.countP_eq_length.mpr fun u hu => by
      have hnot := (mem_newUsernames.mp hu).2
      simpa [← exists?_iff] using hnot
  rw [usernames_merge h, List.countP_append, hkept, hnew, hlen, Nat.zero_add]

theorem updated_merge (h : p.Sound) (rows : List Account) :
    (p.merge rows).1.updated = p.accounts.countP fun a =>
      ∃ b ∈ (p.merge rows).2.accounts, b.username = a.username ∧ b ≠ a := by
  have hdiffers (a : Account) : (row? rows a.username).any (· ≠ a) =
      decide (∃ b ∈ (p.merge rows).2.accounts, b.username = a.username ∧ b ≠ a) := by
    rw [Bool.eq_iff_iff, Option.any_eq_true, decide_eq_true_eq]
    constructor
    · rintro ⟨b, hb, hne⟩
      have hu := username_of_row? hb
      exact ⟨b, (mem_accounts_merge_iff h).mpr (hu ▸ hb), hu, of_decide_eq_true hne⟩
    · rintro ⟨b, hb, hu, hne⟩
      exact ⟨b, hu ▸ (mem_accounts_merge_iff h).mp hb, decide_eq_true hne⟩
  simp only [← hdiffers]
  rw [← map_account_slots h.aligned, List.countP_map]
  simp only [merge, ← List.countP_eq_length_filter, List.countP_filterMap]
  refine List.countP_congr fun s _ => ?_
  cases hrow : row? rows s.account.username with
  | none => simp [hrow]
  | some a => simp [hrow, ne_comm]

theorem removed_merge (h : p.Sound) (rows : List Account) :
    (p.merge rows).1.removed = p.usernames.countP (· ∉ rows.map (·.username)) := by
  have hkept : (p.slots.filterMap (refreshed rows)).length =
      p.usernames.countP (· ∈ rows.map (·.username)) := by
    have hlen := congrArg List.length (usernames_refreshed rows p.slots)
    rw [List.length_map, usernames_slots h.aligned, ← List.countP_eq_length_filter] at hlen
    simpa only [isSome_row?_eq] using hlen
  have hmerge : (p.merge rows).1.removed =
      p.accounts.length - (p.slots.filterMap (refreshed rows)).length := by
    simp [merge, List.length_filterMap_eq_countP, refreshed]
  have htotal := List.length_eq_countP_add_countP (· ∈ rows.map (·.username)) (l := p.usernames)
  have hlen : p.usernames.length = p.accounts.length := List.length_map ..
  simp only [decide_eq_true_eq] at htotal
  omega

/-! ### Flags -/

theorem flag_merge (h : p.Sound) {j : Nat} {b : Account}
    (hb : (p.merge rows).2.accounts[j]? = some b) :
    (p.merge rows).2.inUse[j]? = some (p.isInUse b.username) := by
  have hrow := (mem_accounts_merge_iff h).mp (List.mem_of_getElem? hb)
  rw [(h.merge rows).isInUse hb, isInUse_merge h, hrow, Option.isSome_some, Bool.true_and]

theorem merged_merge (h : p.Sound) (rows : List Account) :
    Merged p rows (p.merge rows).1 (p.merge rows).2 where
  sound := h.merge rows
  loaded u := by rw [← exists?_iff, exists?_merge h]
  records a ha := isLast_of_row? ((mem_accounts_merge_iff h).mp ha)
  order := by
    refine ⟨p.newUsernames rows, ?_, pairwise_newUsernames p rows, fun u hu hmem => ?_⟩
    · simp only [usernames_merge h, isSome_row?_eq]
    · rw [← exists?_iff, (mem_newUsernames.mp hu).2] at hmem
      cases hmem
  keptFlags i j a b ha hb hu := by rw [flag_merge h hb, hu, h.isInUse ha]
  newFlags j b hb hnew := by
    rw [flag_merge h hb, isInUse_of_not_exists]
    rwa [← Bool.not_eq_true, exists?_iff]
  added := added_merge h rows
  updated := updated_merge h rows
  removed := removed_merge h rows

end Pool

namespace Fleet

variable {σ : Type} [Store σ] {f : Fleet σ}

/-- A reload of the accounts merges the rows that it loads, whichever they are, and touches
nothing but the pool. -/
theorem reloadAccounts_merged (h : f.pool.Sound) {rows : List Account}
    (hrows : Store.loadAccounts f.store = .ok rows) :
    ∃ counts q, f.reloadAccounts = (.ok counts, { f with pool := q }) ∧
      Pool.Merged f.pool rows counts q := by
  refine ⟨_, _, ?_, Pool.merged_merge h rows⟩
  rw [reloadAccounts, hrows]

/-- The rows of `renewal`: one account has two of them, and two have a username that is new. -/
def renewalRows : List Account :=
  [.fresh ⟨"kept", "old", 1⟩, .fresh ⟨"second", "pw", 1⟩, .fresh ⟨"first", "pw", 1⟩,
    .fresh ⟨"kept", "new", 2⟩]

/-- A pool with an account in use and another one, which has no row any more. -/
def renewal : Fleet Tables :=
  { Fleet.new default { Tables.empty with accounts := renewalRows } with
    pool := ⟨[.fresh ⟨"gone", "pw", 1⟩, .fresh ⟨"kept", "old", 1⟩], [false, true]⟩ }

theorem reloadAccounts_merged_renewal :
    renewal.pool.Sound ∧ Store.loadAccounts renewal.store = .ok renewalRows ∧
      ∃ counts q, renewal.reloadAccounts = (.ok counts, { renewal with pool := q }) ∧
        Pool.Merged renewal.pool renewalRows counts q :=
  have hsound : renewal.pool.Sound := ⟨rfl, by decide⟩
  ⟨hsound, rfl, reloadAccounts_merged hsound rfl⟩

end Fleet

end ScanFleet
