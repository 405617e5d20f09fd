import Mathlib.Data.List.Induction
import ScanFleet.Proofs.Fleet.Credentials

/-! Accounts that two workers share.  The flag of an account goes with its row: a load of rows that
lack the account drops the flag, also when some worker is bound to it, and a later load of rows that
have it again adds it with its flag down.  This is the only way to bind an account twice.  For one
account and along a run, either its flag guards it, or it was dropped while it was bound and the
pool does not know it yet, or it was restored since. -/

namespace ScanFleet.Fleet

variable {σ : Type} {f g : Fleet σ} {u : String}

def IsBound (f : Fleet σ) (u : String) : Prop := ∃ x ∈ f.sessions.list, x.username = some u

theorem isBound_iff (hd : f.sessions.Distinct) :
    f.IsBound u ↔ ∃ worker, f.boundAccount worker = some u := by
  constructor
  · rintro ⟨x, hx, hu⟩
    exact ⟨x.id, (boundAccount_of_mem hd hx).trans hu⟩
  · rintro ⟨worker, hw⟩
    obtain ⟨x, hx, -, hu⟩ := boundAccount_eq_some hw
    exact ⟨x, hx, hu⟩

/-! ### An account that is bound once -/

/-- At most one worker is bound to `u`, in a fleet that is in order. -/
structure Single (f : Fleet σ) (u : String) : Prop where
  sessions : f.sessions.Distinct
  pool : f.pool.Sound
  unique : ∀ {worker other}, f.boundAccount worker = some u → f.boundAccount other = some u →
    worker = other

namespace Single

theorem of_not_isBound (hd : f.sessions.Distinct) (hp : f.pool.Sound) (h : ¬ f.IsBound u) :
    f.Single u :=
  ⟨hd, hp, fun hw _ => absurd ((isBound_iff hd).mpr ⟨_, hw⟩) h⟩

theorem holders_le_one (h : f.Single u) : f.holders u ≤ 1 :=
  holders_le_one_of_unique h.sessions h.unique

/-- A change leaves one worker at most with `u` if nobody gets it who is not the only one. -/
theorem rebinds (h : f.Single u) (hfg : Rebinds f g)
    (hnew : f.pool.isInUse u = false → g.pool.isInUse u →
      ∀ worker, f.boundAccount worker ≠ some u) : g.Single u := by
  refine ⟨hfg.sessions, hfg.pool, fun {w w'} h1 h2 => ?_⟩
  cases hfg.regrant with
  | keep hb hu =>
    rw [hb] at h1 h2
    exact h.unique h1 h2
  | assign worker c hfree hb hu =>
    have hbound (hc : c = some u) (w : String) : f.boundAccount w ≠ some u :=
      hnew (hfree u hc) (by simp [hu, hc]) w
    rw [hb] at h1 h2
    split at h1 <;> split at h2
    next hw hw' => rw [hw, hw']
    next => exact absurd h2 (hbound h1 w')
    next => exact absurd h1 (hbound h2 w)
    next => exact h.unique h1 h2

theorem load (h : f.Single u) {rows : Option (List Account)} (hs : g.sessions = f.sessions)
    (hp : g.pool = f.pool.load rows) : g.Single u := by
  refine ⟨by rw [hs]; exact h.sessions, by rw [hp]; exact h.pool.load rows, fun h1 h2 => ?_⟩
  rw [boundAccount, hs] at h1 h2
  exact h.unique h1 h2

end Single

/-! ### Guarded accounts -/

/-- The flag of `u` is up while some worker is bound to it, and one worker is at most. -/
structure Guarded (f : Fleet σ) (u : String) : Prop extends Single f u where
  flagged : f.IsBound u → f.pool.isInUse u

namespace Guarded

theorem of_not_isBound (hd : f.sessions.Distinct) (hp : f.pool.Sound) (h : ¬ f.IsBound u) :
    f.Guarded u :=
  ⟨.of_not_isBound hd hp h, fun hb => absurd hb h⟩

theorem not_bound (h : f.Guarded u) (hu : f.pool.isInUse u = false) (worker : String) :
    f.boundAccount worker ≠ some u := by
  intro hw
  rw [h.flagged ((isBound_iff h.sessions).mpr ⟨worker, hw⟩)] at hu
  cases hu

theorem rebinds (h : f.Guarded u) (hfg : Rebinds f g) : g.Guarded u := by
  refine ⟨h.toSingle.rebinds hfg fun hu _ => h.not_bound hu, fun hbound => ?_⟩
  obtain ⟨w, hw⟩ := (isBound_iff hfg.sessions).mp hbound
  have hflag {w : String} (hf : f.boundAccount w = some u) : f.pool.isInUse u :=
    h.flagged ((isBound_iff h.sessions).mpr ⟨w, hf⟩)
  cases hfg.regrant with
  | keep hb hu =>
    rw [hb] at hw
    rw [hu]
    exact hflag hw
  | assign worker c hfree hb hu =>
    rw [hb] at hw
    simp only [hu, Bool.or_eq_true, Bool.and_eq_true, decide_eq_true_eq]
    split at hw
    next => exact .inl hw
    next hne => exact .inr ⟨fun hworker => hne (h.unique hw hworker), hflag hw⟩

theorem load (h : f.Guarded u) {rows : Option (List Account)} (hs : g.sessions = f.sessions)
    (hp : g.pool = f.pool.load rows)
    (hrows : ∀ r, rows = some r → u ∈ r.map (·.username)) : g.Guarded u := by
  refine ⟨h.toSingle.load hs hp, fun hbound => ?_⟩
  rw [IsBound, hs] at hbound
  rw [hp, Pool.isInUse_load h.pool]
  exact ⟨h.flagged hbound, hrows⟩

end Guarded

/-! ### Accounts that the pool does not know -/

/-- The pool does not know `u`, and one worker at most is bound to it. -/
structure Absent (f : Fleet σ) (u : String) : Prop extends Single f u where
  unknown : f.pool.exists? u = false

namespace Absent

theorem rebinds (h : f.Absent u) (hfg : Rebinds f g) : g.Absent u := by
  have hunknown : g.pool.exists? u = false := by
    rw [Pool.exists?, Pool.position_congr hfg.usernames]
    exact h.unknown
  refine ⟨h.toSingle.rebinds hfg fun _ hu => ?_, hunknown⟩
  rw [Pool.isInUse_of_not_exists hunknown] at hu
  cases hu

/-- A load of rows without `u` leaves or makes it unknown. -/
theorem load (h : f.Single u) {rows : List Account} (hs : g.sessions = f.sessions)
    (hp : g.pool = f.pool.load (some rows)) (hrows : u ∉ rows.map (·.username)) : g.Absent u := by
  refine ⟨h.load hs hp, ?_⟩
  rw [hp, Pool.load, ← Bool.not_eq_true, Pool.exists?_merge h.pool]
  exact hrows

end Absent

/-! ### Drops and restorations -/

variable [Store σ]

/-- An event loads rows without `u` while some session is bound to it. -/
def Drops (f : Fleet σ) (u : String) (e : Event σ) : Prop :=
  f.IsBound u ∧ ∃ rows, f.loadedRows e = some rows ∧ u ∉ rows.map (·.username)

/-- An event loads rows with `u`. -/
def Restores (f : Fleet σ) (u : String) (e : Event σ) : Prop :=
  ∃ rows, f.loadedRows e = some rows ∧ u ∈ rows.map (·.username)

/-- Some session is bound to `u` in every state of a run, the first and the last one included. -/
def BoundAlong (f : Fleet σ) (u : String) (events : List (Event σ)) : Prop :=
  ∀ events', events' <+: events → (f.run events').IsBound u

/-- Somewhere in a run `u` is dropped while it is bound, and restored later; some session is bound
to it all the time from the drop to the end. -/
def LapsesIn (f : Fleet σ) (u : String) (events : List (Event σ)) : Prop :=
  ∃ before drop between restore rest,
    events = before ++ drop :: (between ++ restore :: rest) ∧
      (f.run before).Drops u drop ∧
      (f.run (before ++ drop :: between)).Restores u restore ∧
      ((f.run before).after drop).BoundAlong u (between ++ restore :: rest)

theorem run_concat (f : Fleet σ) (events : List (Event σ)) (e : Event σ) :
    f.run (events ++ [e]) = (f.run events).after e := run_append f events [e]

theorem run_split (f : Fleet σ) (before events : List (Event σ)) (e : Event σ) :
    f.run (before ++ e :: events) = ((f.run before).after e).run events :=
  run_append f before (e :: events)

theorem BoundAlong.concat {events : List (Event σ)} {e : Event σ} (h : f.BoundAlong u events)
    (he : ((f.run events).after e).IsBound u) : f.BoundAlong u (events ++ [e]) := by
  intro events' hprefix
  rcases List.prefix_concat_iff.mp hprefix with rfl | hprefix
  · rw [run_concat]
    exact he
  · exact h events' hprefix

theorem boundAlong_nil (h : f.IsBound u) : f.BoundAlong u [] := by
  intro events' hprefix
  rw [List.prefix_nil.mp hprefix]
  exact h

/-- What is known of an account after a run. -/
inductive Custody (f : Fleet σ) (u : String) (events : List (Event σ)) : Prop
  | guarded (h : (f.run events).Guarded u) : Custody f u events
  | dropped (before : List (Event σ)) (drop : Event σ) (between : List (Event σ))
      (hevents : events = before ++ drop :: between) (hdrop : (f.run before).Drops u drop)
      (hbound : ((f.run before).after drop).BoundAlong u between)
      (h : (f.run events).Absent u) : Custody f u events
  | restored (h : f.LapsesIn u events) : Custody f u events

section

variable {events : List (Event σ)} {e : Event σ}

theorem custody_of_guarded (h : (f.run events).Guarded u)
    (hbound : ((f.run events).after e).IsBound u) : f.Custody u (events ++ [e]) := by
  rcases rebinds_after h.sessions h.pool e with hsteps | ⟨hs, hp⟩
  · refine .guarded ?_
    rw [run_concat]
    exact rebinds_keep Guarded.rebinds hsteps h
  · by_cases hdrop : (f.run events).Drops u e
    · obtain ⟨-, rows, hrows, hnot⟩ := id hdrop
      rw [hrows] at hp
      refine .dropped events e [] rfl hdrop (boundAlong_nil hbound) ?_
      rw [run_concat]
      exact .load h.toSingle hs hp hnot
    · refine .guarded ?_
      rw [run_concat]
      refine h.load hs hp fun rows hrows => ?_
      by_contra hnot
      rw [IsBound, hs] at hbound
      exact hdrop ⟨hbound, rows, hrows, hnot⟩

theorem custody_of_dropped {before between : List (Event σ)} {drop : Event σ}
    (hevents : events = before ++ drop :: between) (hdrop : (f.run before).Drops u drop)
    (hsince : ((f.run before).after drop).BoundAlong u between) (h : (f.run events).Absent u)
    (hbound : ((f.run events).after e).IsBound u) : f.Custody u (events ++ [e]) := by
  have hlonger : events ++ [e] = before ++ drop :: (between ++ [e]) := by simp [hevents]
  have hsince' : ((f.run before).after drop).BoundAlong u (between ++ [e]) := by
    refine hsince.concat ?_
    rw [← run_split, ← hevents]
    exact hbound
  have hstill (h : ((f.run events).after e).Absent u) : f.Custody u (events ++ [e]) := by
    refine .dropped before drop (between ++ [e]) hlonger hdrop hsince' ?_
    rw [run_concat]
    exact h
  rcases rebinds_after h.sessions h.pool e with hsteps | ⟨hs, hp⟩
  · exact hstill (rebinds_keep Absent.rebinds hsteps h)
  · cases hrows : (f.run events).loadedRows e with
    | none =>
      rw [hrows] at hp
      refine hstill ⟨h.toSingle.load hs hp, ?_⟩
      rw [hp]
      exact h.unknown
    | some rows =>
      rw [hrows] at hp
      by_cases hu : u ∈ rows.map (·.username)
      · refine .restored ⟨before, drop, between, e, [], hlonger, hdrop, ?_, hsince'⟩
        rw [← hevents]
        exact ⟨rows, hrows, hu⟩
      · exact hstill (.load h.toSingle hs hp hu)

theorem LapsesIn.concat (h : f.LapsesIn u events) (hbound : ((f.run events).after e).IsBound u) :
    f.LapsesIn u (events ++ [e]) := by
  obtain ⟨before, drop, between, restore, rest, hevents, hdrop, hrestore, hsince⟩ := h
  refine ⟨before, drop, between, restore, rest ++ [e], by simp [hevents], hdrop, hrestore, ?_⟩
  have hlonger : between ++ restore :: (rest ++ [e]) = between ++ restore :: rest ++ [e] := by simp
  rw [hlonger]
  refine hsince.concat ?_
  rw [← run_split, ← hevents]
  exact hbound

end

theorem custody_run (settings : Settings) (store : σ) (events : List (Event σ)) (u : String) :
    (Fleet.new settings store).Custody u events := by
  have hsound (events : List (Event σ)) := (sound_new settings store).run events
  have hpool (events : List (Event σ)) : ((Fleet.new settings store).run events).pool.Sound :=
    poolSound_run Pool.sound_empty events
  have hnone : ¬ (Fleet.new settings store).IsBound u := fun ⟨_, hx, _⟩ => by cases hx
  generalize Fleet.new settings store = f at hsound hpool hnone ⊢
  induction events using List.reverseRecOn with
  | nil => exact .guarded (.of_not_isBound (hsound []).distinct (hpool []) hnone)
  | append_singleton events e ih =>
    by_cases hbound : (f.run (events ++ [e])).IsBound u
    · rw [run_concat] at hbound
      cases ih with
      | guarded h => exact custody_of_guarded h hbound
      | dropped before drop between hevents hdrop hsince h =>
        exact custody_of_dropped hevents hdrop hsince h hbound
      | restored h => exact .restored (h.concat hbound)
    · -- What was so far does not matter once nobody is bound to the account.
      exact .guarded (.of_not_isBound (hsound _).distinct (hpool _) hbound)

/-- When two sessions are bound to one account, some load dropped the account while it was bound,
a later one restored it, and some session was bound to it all the time since. -/
theorem run_shared (settings : Settings) (store : σ) (events : List (Event σ)) (u : String)
    (h : 1 < ((Fleet.new settings store).run events).holders u) :
    (Fleet.new settings store).LapsesIn u events := by
  cases custody_run settings store events u with
  | guarded hu =>
    have hle := hu.toSingle.holders_le_one
    omega
  | dropped before drop between hevents hdrop hsince hu =>
    have hle := hu.toSingle.holders_le_one
    omega
  | restored hlapse => exact hlapse

/-- The row of the only account is removed while it is held, and comes back; both times the accounts
are reloaded.  Then another worker asks for an account. -/
def removedRun : List (Event Tables) :=
  let ask (op : Operation) : Event Tables := .perform op .none 10
  [ask .bootstrap, ask (.initWorker "w1" none), ask (.initWorker "w2" none),
    ask (.assignAccount "w1" none), .edit { smallStore with accounts := [] }, ask .reloadAccounts,
    .edit { smallStore with
      accounts := [{ Account.fresh ⟨"ada", "pw", 30⟩ with lastReleased := some 0 }] },
    ask .reloadAccounts, ask (.assignAccount "w2" none)]

theorem run_removed_twoHolders :
    let f := (Fleet.new smallSettings smallStore).run removedRun
    f.boundAccount "w1" = some "ada" ∧ f.boundAccount "w2" = some "ada" ∧ f.holders "ada" = 2 := by
  decide +kernel

theorem run_shared_removed :
    1 < ((Fleet.new smallSettings smallStore).run removedRun).holders "ada" ∧
      (Fleet.new smallSettings smallStore).LapsesIn "ada" removedRun := by
  have hshared : 1 < ((Fleet.new smallSettings smallStore).run removedRun).holders "ada" := by
    decide +kernel
  exact ⟨hshared, run_shared smallSettings smallStore removedRun "ada" hshared⟩

end ScanFleet.Fleet
