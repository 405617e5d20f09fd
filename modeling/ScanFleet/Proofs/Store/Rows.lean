import ScanFleet.Proofs.Keyed
import ScanFleet.Store.Tables

/-! The rows of accounts in a store in memory.  A write changes the row of one username and no
other.  An import adds a row for each username that has none, and a stamp gives every row a time of
release. -/

namespace ScanFleet

/-- A list of accounts with that of a username changed. -/
def amend (u : String) (k : Account → Account) (l : List Account) : List Account :=
  l.map fun a => if a.username = u then k a else a

section Amend

variable {u : String} {k : Account → Account} {l : List Account}

theorem mem_amend {b : Account} :
    b ∈ amend u k l ↔ ∃ a ∈ l, (if a.username = u then k a else a) = b := List.mem_map

theorem amend_congr {k' : Account → Account} (h : ∀ a ∈ l, a.username = u → k a = k' a) :
    amend u k l = amend u k' l :=
  List.map_congr_left fun a ha => by
    split
    next hu => exact h a ha hu
    next => rfl

theorem amend_id (u : String) (l : List Account) : amend u id l = l := by
  simp [amend]

theorem amend_eq_self (h : u ∉ l.map (·.username)) : amend u k l = l := by
  rw [amend, List.map_congr_left (g := id), List.map_id]
  intro a ha
  have hne : a.username ≠ u := fun hu => h (hu ▸ List.mem_map_of_mem ha)
  exact if_neg hne

variable (hk : ∀ a, (k a).username = a.username)
include hk

theorem username_amended (u : String) (a : Account) :
    (if a.username = u then k a else a).username = a.username := by
  split
  · exact hk a
  · rfl

theorem usernames_amend (u : String) (l : List Account) :
    (amend u k l).map (·.username) = l.map (·.username) := by
  rw [amend, List.map_map]
  exact List.map_congr_left fun a _ => username_amended hk u a

end Amend

namespace Tables

/-- No username has two rows. -/
def Distinct (t : Tables) : Prop := (t.accounts.map (·.username)).Nodup

instance : DecidablePred Distinct := fun _ => inferInstanceAs (Decidable (List.Nodup _))

theorem account?_eq_some_iff {t : Tables} (h : t.Distinct) {u : String} {a : Account} :
    t.account? u = some a ↔ a ∈ t.accounts ∧ a.username = u :=
  Keyed.find?_eq_some_iff h

theorem readOnly_apply (t : Tables) (w : Write) : (t.apply w).readOnly = t.readOnly := by
  cases w <;> rfl

theorem write_of_writable {t : Tables} (h : t.readOnly = false) (w : Write) :
    t.write w = (.ok (), t.apply w) := by
  simp [write, h]

/-! ### Imports -/

theorem perm_insertAccount {a : Account} {l : List Account} (h : a.username ∉ l.map (·.username)) :
    (insertAccount a l).Perm (a :: l) := by
  induction l with
  | nil => exact .refl _
  | cons b l ih =>
    rw [List.map_cons, List.mem_cons, not_or] at h
    simp only [insertAccount, if_neg h.1]
    split
    · exact .refl _
    · exact ((ih h.2).cons b).trans (.swap a b l)

/-- The usernames among new accounts that a store has no row for. -/
def unknown (t : Tables) (accounts : List NewAccount) : List String :=
  (accounts.map (·.username)).filter fun u => (t.account? u).isNone

theorem mem_unknown {t : Tables} {accounts : List NewAccount} {u : String} :
    u ∈ t.unknown accounts ↔
      u ∈ accounts.map (·.username) ∧ u ∉ t.accounts.map (·.username) := by
  rw [unknown, List.mem_filter, ← Keyed.isSome_find?_iff (k := Account.username), account?,
    Option.isNone_iff_eq_none, Option.not_isSome_iff_eq_none]

/-- What an import of accounts makes of a store: it keeps all rows, and the usernames that it adds
have the rows of unused accounts. -/
structure Gains (accounts : List NewAccount) (t t' : Tables) : Prop where
  distinct : t'.Distinct
  readOnly : t'.readOnly = t.readOnly
  kept : ∀ a ∈ t.accounts, a ∈ t'.accounts
  origin : ∀ a ∈ t'.accounts, a ∈ t.accounts ∨
    a.username ∈ t.unknown accounts ∧ ∃ n ∈ accounts, a = .fresh n

theorem gains_addAccount {t : Tables} (h : t.Distinct) (count : Nat) (n : NewAccount) :
    Gains [n] t (addAccount (count, t) n).2 := by
  unfold addAccount
  dsimp only
  split
  next => exact ⟨h, rfl, fun _ ha => ha, fun _ ha => .inl ha⟩
  next hnone =>
    have hnew : n.username ∉ t.accounts.map (·.username) := fun hm =>
      hnone (Keyed.isSome_find?_iff.mpr hm)
    have hperm : (t.putAccount (.fresh n)).accounts.Perm (.fresh n :: t.accounts) :=
      perm_insertAccount hnew
    refine ⟨?_, rfl, fun a ha => hperm.mem_iff.mpr (List.mem_cons_of_mem _ ha), fun a ha => ?_⟩
    · rw [Distinct, (hperm.map (·.username)).nodup_iff]
      exact List.nodup_cons.mpr ⟨hnew, h⟩
    · rcases List.mem_cons.mp (hperm.mem_iff.mp ha) with rfl | ha
      · exact .inr ⟨mem_unknown.mpr ⟨List.mem_singleton_self _, hnew⟩, n,
          List.mem_singleton_self n, rfl⟩
      · exact .inl ha

theorem Gains.trans {ns ns' : List NewAccount} {t t' t'' : Tables} (h1 : Gains ns t t')
    (h2 : Gains ns' t' t'') : Gains (ns ++ ns') t t'' := by
  refine ⟨h2.distinct, h2.readOnly.trans h1.readOnly, fun a ha => h2.kept a (h1.kept a ha),
    fun a ha => ?_⟩
  rcases h2.origin a ha with ha | ⟨hu, n, hn, rfl⟩
  · rcases h1.origin a ha with ha | ⟨hu, n, hn, rfl⟩
    · exact .inl ha
    · obtain ⟨hmem, hnot⟩ := mem_unknown.mp hu
      refine .inr ⟨mem_unknown.mpr ⟨?_, hnot⟩, n, List.mem_append_left _ hn, rfl⟩
      rw [List.map_append]
      exact List.mem_append_left _ hmem
  · obtain ⟨hmem, hnot⟩ := mem_unknown.mp hu
    refine .inr ⟨mem_unknown.mpr ⟨?_, fun hm => hnot ?_⟩, n, List.mem_append_right _ hn, rfl⟩
    · rw [List.map_append]
      exact List.mem_append_right _ hmem
    · obtain ⟨b, hb, he⟩ := List.mem_map.mp hm
      exact he ▸ List.mem_map_of_mem (h1.kept b hb)

theorem gains_foldl {t : Tables} (h : t.Distinct) (count : Nat) (ns : List NewAccount) :
    Gains ns t (ns.foldl addAccount (count, t)).2 := by
  induction ns generalizing t count with
  | nil => exact ⟨h, rfl, fun _ ha => ha, fun _ ha => .inl ha⟩
  | cons n ns ih =>
    have hone := gains_addAccount h count n
    exact hone.trans (ih hone.distinct (addAccount (count, t) n).1)

theorem insertAccounts_of_writable {t : Tables} (h : t.readOnly = false) (ns : List NewAccount) :
    ∃ count, t.insertAccounts ns = (.ok count, (t.insertAccounts ns).2) := by
  simp [insertAccounts, h]

theorem gains_insertAccounts {t : Tables} (h : t.Distinct) (hw : t.readOnly = false)
    (ns : List NewAccount) : Gains ns t (t.insertAccounts ns).2 := by
  unfold insertAccounts
  rw [hw]
  exact gains_foldl h 0 ns

/-! ### Stamps -/

theorem username_stampReleased (now : Instant) (a : Account) :
    (stampReleased now a).username = a.username := by
  unfold stampReleased
  split <;> rfl

theorem accounts_releaseAll {t : Tables} (hw : t.readOnly = false) (now : Instant) :
    (t.releaseAll now).2.accounts = t.accounts.map (stampReleased now) := by
  simp [releaseAll, hw]

theorem lastReleased_stampReleased (now : Instant) (a : Account) :
    (stampReleased now a).lastReleased ≠ none := by
  unfold stampReleased
  split <;> simp_all

end Tables

end ScanFleet
