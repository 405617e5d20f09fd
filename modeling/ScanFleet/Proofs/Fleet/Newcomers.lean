import ScanFleet.Proofs.Fleet.Bookkeeping

/-! Accounts that are idle and those that can be selected.  A startup gives every account a time of
release, and from then on an account lacks one while it is in use.  An import adds accounts without
a time of release, and no reload stamps them: they are loaded, but nobody is given one before the
next startup. -/

namespace ScanFleet.Fleet

variable {f g : Fleet Tables} {fresh : List String}

/-- The usernames that imports have added since the last startup, after one more event. -/
def arrivals (f : Fleet Tables) (fresh : List String) : Event Tables → List String
  | .perform .bootstrap _ _ => []
  | .perform (.importAccounts accounts) _ _ => fresh ++ f.store.unknown accounts
  | _ => fresh

/-- The usernames that imports have added since the last startup, after a run. -/
def newcomers (f : Fleet Tables) (fresh : List String) : List (Event Tables) → List String
  | [] => fresh
  | e :: events => (f.after e).newcomers (f.arrivals fresh e) events

/-- The idle accounts without a time of release are the fresh ones, and no fresh one is in use. -/
structure Dated (f : Fleet Tables) (fresh : List String) : Prop where
  idle : ∀ u ∈ fresh, f.pool.isInUse u = false
  dated : ∀ a ∈ f.pool.accounts, f.pool.isInUse a.username = false →
    (a.lastReleased = none ↔ a.username ∈ fresh)

namespace Dated

theorem congr (h : f.Dated fresh) (hp : g.pool = f.pool) : g.Dated fresh :=
  ⟨by rw [hp]; exact h.idle, by rw [hp]; exact h.dated⟩

/-! ### Entries -/

theorem mark (h : f.Dated fresh) (hf : f.InStep) (u : String) (m : AccountMark) :
    (f.mark u m).Dated fresh := by
  rcases hf.amended_mark u m with hn | ha
  · rwa [hn]
  · have hflags := (f.notes_mark u m).flags.isInUse
    refine ⟨fun v hv => (hflags v).trans (h.idle v hv), fun b hb hidle => ?_⟩
    rw [ha.records] at hb
    obtain ⟨a, hmem, rfl⟩ := mem_amend.mp hb
    have htime : (if a.username = u then m.change a else a).lastReleased = a.lastReleased := by
      split
      · exact m.lastReleased_change a
      · rfl
    rw [hflags, username_amended m.username_change] at hidle
    rw [htime, username_amended m.username_change]
    exact h.dated a hmem hidle

theorem allocate (h : f.Dated fresh) (hf : f.InStep) (accept : Account → Bool) (now : Instant) :
    (f.allocate accept now).2.Dated fresh := by
  rcases hf.amended_allocate accept now with hn | ⟨a, hmem, hc, -, ht, hfree, ha⟩
  · rwa [hn]
  · have hflags (v : String) : (f.allocate accept now).2.pool.isInUse v =
        (decide (v = a.username) || f.pool.isInUse v) := by
      rw [allocate_pool]
      exact (Pool.isInUse_allocate hf.sound (f.allocate_fst accept now ▸ hc)).2 v
    -- What is selected has a time of release, so it is not fresh.
    have hold : a.username ∉ fresh := fun hu => ht ((h.dated a hmem hfree).mpr hu)
    refine ⟨fun u hu => ?_, fun b hb hidle => ?_⟩
    · have hne : u ≠ a.username := fun he => hold (he ▸ hu)
      rw [hflags, h.idle u hu, Bool.or_false]
      exact decide_eq_false hne
    · rw [ha.records] at hb
      obtain ⟨d, hd, rfl⟩ := mem_amend.mp hb
      rw [hflags, username_amended (Account.username_select now), Bool.or_eq_false_iff] at hidle
      obtain ⟨hne, hidle⟩ := hidle
      rw [if_neg (of_decide_eq_false hne)]
      exact h.dated d hd hidle

theorem release (h : f.Dated fresh) (hf : f.InStep) {u : String} (hu : u ∉ fresh) (now : Instant) :
    (f.release u now).Dated fresh := by
  have ha := hf.amended_release u now
  have hflags (v : String) : (f.release u now).pool.isInUse v = _ :=
    Pool.isInUse_release hf.sound u v now
  refine ⟨fun v hv => ?_, fun b hb hidle => ?_⟩
  · rw [hflags, h.idle v hv, Bool.and_false]
  · rw [ha.records] at hb
    obtain ⟨a, hmem, rfl⟩ := mem_amend.mp hb
    rw [hflags, username_amended (Account.username_giveBack now)] at hidle
    rw [username_amended (Account.username_giveBack now)]
    by_cases he : a.username = u
    · rw [if_pos he, he]
      exact iff_of_false (Option.some_ne_none now) hu
    · rw [if_neg he]
      refine h.dated a hmem ?_
      simpa [he] using hidle

theorem entry (h : f.Dated fresh) (hf : f.InStep) {now : Instant} {held : String → Prop}
    (hheld : ∀ u, held u → u ∉ fresh) (he : Entry now held f g) : g.Dated fresh := by
  cases he with
  | other hsame => exact h.congr (congrArg Books.pool hsame.books)
  | mark u hm => exact h.mark hf u _
  | allocate accept => exact h.allocate hf accept now
  | release hu => exact h.release hf (hheld _ hu) now

/-! ### Loads -/

theorem bootstrap (hf : f.InStep) (now : Instant) : (f.bootstrap now).2.Dated [] := by
  refine ⟨fun u hu => absurd hu List.not_mem_nil, fun b hb _ => ?_⟩
  have hm : (f.refill (f.store.releaseAll now).2).Mirrors :=
    hf.mirrors_load (e := .perform .bootstrap .none now) rfl rfl
  have hpool : (f.bootstrap now).2.pool = (f.refill (f.store.releaseAll now).2).pool :=
    congrArg Books.pool (f.books_bootstrap now)
  rw [hpool] at hb
  have hrow : b ∈ (f.store.releaseAll now).2.accounts := hm.known b hb
  rw [Tables.accounts_releaseAll hf.writable] at hrow
  obtain ⟨a, -, rfl⟩ := List.mem_map.mp hrow
  exact iff_of_false (Tables.lastReleased_stampReleased now a) List.not_mem_nil

theorem importAccounts (h : f.Dated fresh) (hf : f.Mirrors) (accounts : List NewAccount) :
    (f.importAccounts accounts).2.Dated (fresh ++ f.store.unknown accounts) := by
  have hgains := Tables.gains_insertAccounts hf.distinct hf.writable accounts
  rw [importAccounts_tables hf.writable]
  generalize (f.store.insertAccounts accounts).2 = t at hgains
  have hflags (u : String) : (f.refill t).pool.isInUse u = _ :=
    Pool.isInUse_merge hf.sound t.accounts u
  refine ⟨fun u hu => ?_, fun b hb hidle => ?_⟩
  · rw [hflags]
    rcases List.mem_append.mp hu with hu | hu
    · rw [h.idle u hu, Bool.and_false]
    · -- A username without a row has no account in the pool either.
      have hout : f.pool.isInUse u = false := by
        refine Bool.eq_false_iff.mpr fun hin => (Tables.mem_unknown.mp hu).2 ?_
        exact List.map_subset _ hf.known (Pool.exists?_iff.mp (Pool.exists?_of_isInUse hin))
      rw [hout, Bool.and_false]
  · have hrow : b ∈ t.accounts := (Pool.mem_accounts_merge hf.sound hgains.distinct).mp hb
    have hsome : (Pool.row? t.accounts b.username).isSome := by
      rw [(Pool.row?_eq_some_iff hgains.distinct).mpr ⟨hrow, rfl⟩]
      rfl
    rw [hflags, hsome, Bool.true_and] at hidle
    rw [List.mem_append]
    rcases hgains.origin b hrow with hold | ⟨hu, n, -, rfl⟩
    · have hknown : b.username ∉ f.store.unknown accounts := fun hu =>
        (Tables.mem_unknown.mp hu).2 (List.mem_map_of_mem hold)
      rw [h.dated b (hf.loaded b hold) hidle]
      exact ⟨.inl, fun hu => hu.resolve_right hknown⟩
    · exact iff_of_true rfl (.inr hu)

/-! ### Events -/

theorem after (h : f.Dated fresh) (ho : f.Orderly) (hf : f.Mirrors) (e : Event Tables) :
    (f.after e).Dated (f.arrivals fresh e) := by
  cases e with
  | edit store => exact h.congr rfl
  | perform op services now =>
    by_cases hop : op.LoadsAccounts
    · cases op with
      | bootstrap => exact bootstrap hf.toInStep now
      | reloadAccounts =>
        rw [Fleet.after, perform, hf.reloadAccounts]
        exact h
      | importAccounts accounts => exact h.importAccounts hf accounts
      | _ => exact hop.elim
    · have hsame : f.arrivals fresh (.perform op services now) = fresh := by
        cases op with
        | bootstrap | importAccounts => exact absurd trivial hop
        | _ => rfl
      -- What is released was bound to some worker, hence in use, hence not fresh.
      have hheld : ∀ u, f.IsHeld u → u ∉ fresh := fun u hu hmem => by
        have hin := ho.isInUse_of_isHeld hu
        rw [h.idle u hmem] at hin
        cases hin
      rw [hsame]
      by_cases hplan : op.PlansAreas
      · exact h.congr (congrArg Books.pool (f.books_perform services now hplan))
      have hentries := f.entries_perform services now hop hplan
      exact (hentries.keep (P := fun g => g.InStep ∧ g.Dated fresh)
        (fun hg he => ⟨hg.1.entry he, hg.2.entry hg.1 hheld he⟩) ⟨hf.toInStep, h⟩).2

theorem run (h : f.Dated fresh) (ho : f.Orderly) (hf : f.Mirrors) {events : List (Event Tables)}
    (hevents : Along LeavesAccounts f events) :
    (f.run events).Dated (f.newcomers fresh events) := by
  induction events generalizing f fresh with
  | nil => exact h
  | cons e events ih =>
    exact ih (h.after ho hf e) (ho.after hevents.1) (hf.after hevents.1) hevents.2

end Dated

/-! ### Runs -/

/-- After a startup and any further run, the idle accounts without a time of release are those that
imports have added since the last startup.  Whoever asks for one idle account gets it exactly if it
is accepted, may be used and is not one of these; and none of these is ever assigned. -/
theorem run_idle (settings : Settings) {store : Tables} (hrows : store.Distinct)
    (hwrites : store.readOnly = false) (before events : List (Event Tables)) (services : Services)
    (startup : Instant)
    (hevents : Along LeavesAccounts (Fleet.new settings store)
      (before ++ .perform .bootstrap services startup :: events)) :
    let start := (((Fleet.new settings store).run before).bootstrap startup).2
    let f := start.run events
    (∀ s ∈ f.pool.slots, s.inUse = false →
      (s.account.lastReleased = none ↔ s.account.username ∈ start.newcomers [] events) ∧
      ∀ (accept : Account → Bool) (now : Instant),
        ((f.allocate (fun a => accept a && a.username = s.account.username) now).1 =
            some s.account.credentials ↔
          s.account.isUsable now ∧ accept s.account ∧
            s.account.username ∉ start.newcomers [] events)) ∧
    ∀ worker host now c, (f.assignAccount worker host now).1 = .ok c →
      c.username ∉ start.newcomers [] events := by
  intro start f
  obtain ⟨hbefore, hstartup, hafter⟩ := along_append.mp hevents
  have hold := (orderly_new settings hrows hwrites).run hbefore
  have ho : start.Orderly := hold.after hstartup
  have hm : start.Mirrors := hold.toInStep.mirrors_load (e := .perform .bootstrap services startup)
    rfl (books_bootstrap _ startup)
  have hsound : f.pool.Sound := (ho.run hafter).sound
  have hdated : f.Dated (start.newcomers [] events) :=
    (Dated.bootstrap hold.toInStep startup).run ho hm hafter
  refine ⟨fun s hs hidle => ?_, fun worker host now c hc => ?_⟩
  · obtain ⟨i, ha, hflag⟩ := Pool.mem_slots_iff.mp hs
    have hmem := List.mem_of_getElem? ha
    have hfree : f.pool.isInUse s.account.username = false := by
      rw [hsound.isInUse ha, hidle] at hflag
      exact Option.some.inj hflag
    have hiff := hdated.dated s.account hmem hfree
    refine ⟨hiff, fun accept now => ?_⟩
    rw [allocate_fst, Pool.allocate_only_iff hsound hmem hfree, Ne, hiff]
  · obtain ⟨a, hmem, rfl, hfree, -, ht⟩ := assignAccount_ok hsound hc
    exact fun hu => ht ((hdated.dated a hmem hfree).mpr hu)

/-- A worker has an account when another one is added, and then gives its own one back. -/
def lateArrival : List (Event Tables) :=
  [.initWorker "w1" none, .assignAccount "w1" none, .importAccounts [⟨"bea", "pw", 30⟩],
    .logout "w1"].map fun op => .perform op .none 10

/-- The account that was given back can be selected, the one that was added cannot. -/
theorem run_idle_lateArrival :
    let start := (((Fleet.new smallSettings smallStore).run []).bootstrap 0).2
    let f := start.run lateArrival
    smallStore.Distinct ∧ smallStore.readOnly = false ∧
      Along LeavesAccounts (Fleet.new smallSettings smallStore)
        ([] ++ .perform .bootstrap .none 0 :: lateArrival) ∧
      start.newcomers [] lateArrival = ["bea"] ∧
      f.pool.slots.map (fun s => (s.account.username, s.account.lastReleased, s.inUse)) =
        [("ada", some 10, false), ("bea", none, false)] ∧
      ∀ worker host now c, (f.assignAccount worker host now).1 = .ok c → c.username ≠ "bea" := by
  intro start f
  have hrows : smallStore.Distinct := by decide +kernel
  have hevents : Along LeavesAccounts (Fleet.new smallSettings smallStore)
      ([] ++ .perform .bootstrap .none 0 :: lateArrival) := by decide +kernel
  have hnew : start.newcomers [] lateArrival = ["bea"] := by decide +kernel
  have hslots : f.pool.slots.map (fun s => (s.account.username, s.account.lastReleased, s.inUse)) =
      [("ada", some 10, false), ("bea", none, false)] := by decide +kernel
  refine ⟨hrows, rfl, hevents, hnew, hslots, fun worker host now c hc => ?_⟩
  have hout := (run_idle smallSettings hrows rfl [] lateArrival .none 0 hevents).2 worker host now
    c hc
  rw [hnew] at hout
  exact List.ne_of_not_mem_cons hout

/-- A worker asks for an account after one was added.  That one is idle, may be used and has the
level that is asked for, but it has no time of release, and the worker gets nothing. -/
theorem run_idle_stranded :
    let store : Tables := { smallStore with accounts := [] }
    let start := (((Fleet.new smallSettings store).run []).bootstrap 0).2
    let f := start.run ([.initWorker "w1" none, .importAccounts [⟨"bea", "pw", 30⟩]].map
      fun op => .perform op .none 10)
    (∃ s ∈ f.pool.slots, s.inUse = false ∧ s.account.lastReleased = none ∧
      s.account.isUsable 10 ∧ f.accepts s.account) ∧
    (f.assignAccount "w1" none 10).1 = .error .noAccountAvailable := by
  decide +kernel

end ScanFleet.Fleet
