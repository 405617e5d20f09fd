import ScanFleet.Proofs.Fleet.Bookkeeping

/-! Quarantine over whole runs.  Three facts make it hold: whoever is given an account, or is let
work on with one, has an account that may be used; what a report notes in an account bars it from
use for the time of its quarantine; and nothing that happens later takes that note off, for each
mark only moves it to a later time, and every load finds it in the rows as well. -/

namespace ScanFleet

/-- Why an account may not be used, and since when. -/
inductive Quarantine where
  | banned
  | suspended
  | disabled (since : Instant)
  | warned (since : Instant)

def Quarantine.since? : Quarantine → Option Instant
  | .banned | .suspended => none
  | .disabled since | .warned since => some since

/-- Whether a quarantine is noted in an account, as of its start or later. -/
def Quarantine.IsNoted : Quarantine → Account → Prop
  | .banned, a => a.banned
  | .suspended, a => a.suspended
  | .disabled since, a => ∃ t ∈ a.lastDisabled, since ≤ t
  | .warned since, a => ∃ t ∈ a.warnExpiration, since + Span.ofDays 7 ≤ t

/-- Whether a quarantine is not over yet; bans and suspensions never are. -/
def Quarantine.Lasts : Quarantine → Instant → Prop
  | .banned, _ | .suspended, _ => True
  | .disabled since, now => now < since + Span.ofHours 24
  | .warned since, now => now < since + Span.ofDays 7

/-- The quarantine that a worker's report of trouble imposes. -/
def AccountEvent.quarantine (now : Instant) : AccountEvent → Quarantine
  | .banned => .banned
  | .suspended => .suspended
  | .warned => .warned now
  | .invalidCredentials | .unknownError => .disabled now

/-- The quarantine that a mark imposes. -/
def AccountMark.quarantine? : AccountMark → Option Quarantine
  | .banned _ => some .banned
  | .suspended _ => some .suspended
  | .warned now => some (.warned now)
  | .disabled now => some (.disabled now)
  | _ => none

namespace Quarantine

variable {q : Quarantine} {a : Account} {m : AccountMark} {now : Instant}

theorem not_isUsable (h : q.IsNoted a) (hq : q.Lasts now) : a.isUsable now = false := by
  cases q with
  | banned =>
    simp only [IsNoted] at h
    simp [Account.isUsable, h]
  | suspended =>
    simp only [IsNoted] at h
    simp [Account.isUsable, h]
  | disabled since =>
    obtain ⟨t, ht, hle⟩ := h
    have hlate : now - disableCooldown < t :=
      Int.lt_of_lt_of_le (Int.sub_right_lt_of_lt_add hq) hle
    have hd : a.disabledRecently now = true := by
      rw [Account.disabledRecently, Option.mem_def.mp ht]
      exact decide_eq_true hlate
    simp [Account.isUsable, hd]
  | warned since =>
    obtain ⟨t, ht, hle⟩ := h
    have hlate : now < t := Int.lt_of_lt_of_le hq hle
    have hw : a.warnActive now = true := by
      rw [Account.warnActive, Option.mem_def.mp ht]
      exact decide_eq_true hlate
    simp [Account.isUsable, hw]

theorem isNoted_select (h : q.IsNoted a) (now : Instant) : q.IsNoted (a.select now) := by
  cases q <;> exact h

theorem isNoted_giveBack (h : q.IsNoted a) (now : Instant) : q.IsNoted (a.giveBack now) := by
  cases q <;> exact h

theorem isNoted_stampReleased (h : q.IsNoted a) (now : Instant) :
    q.IsNoted (Tables.stampReleased now a) := by
  unfold Tables.stampReleased
  split
  · exact isNoted_giveBack h now
  · exact h

/-- A later mark does not lift a quarantine. -/
theorem isNoted_change (h : q.IsNoted a) (hm : ∀ s ∈ q.since?, ∀ t ∈ m.time?, s ≤ t) :
    q.IsNoted (m.change a) := by
  cases q with
  | banned =>
    cases m with
    | banned => rfl
    | _ => exact h
  | suspended =>
    cases m with
    | suspended => rfl
    | _ => exact h
  | disabled since =>
    cases m with
    | disabled now => exact ⟨now, rfl, hm since rfl now rfl⟩
    | _ => exact h
  | warned since =>
    cases m with
    | warned now =>
      have hle := hm since rfl now rfl
      exact ⟨now + warnDuration, rfl, Int.add_le_add_right hle warnDuration⟩
    | _ => exact h

/-- What a mark that imposes a quarantine does: it notes it, as of its own time. -/
theorem of_mark (h : m.quarantine? = some q) :
    m.IsPlain ∧ (∀ a, q.IsNoted (m.change a)) ∧ ∀ s ∈ q.since?, s ∈ m.time? := by
  cases m with
  | banned now | suspended now =>
    cases h
    exact ⟨trivial, fun _ => rfl, fun _ hs => by cases hs⟩
  | warned now | disabled now =>
    cases h
    exact ⟨trivial, fun _ => ⟨_, rfl, Int.le_refl _⟩, fun _ hs => hs⟩
  | invalid | tutorialDone | level => cases h

end Quarantine

namespace Fleet

variable {f g : Fleet Tables} {u : String} {q : Quarantine} {e : Event Tables}

/-- A worker that is on an account of the pool which may not be used is told to switch. -/
theorem nextJob_of_not_usable {worker : String} {username : Option String} {now : Instant}
    {a : Account} (h : f.pool.Sound) (ha : a ∈ f.pool.accounts) (hnot : a.isUsable now = false)
    (hn : f.namedAccount worker username = some a.username) (services : Services)
    (host : Option String) :
    (f.nextJob services worker username host now).1 =
      .ok (.switchAccount f.settings.minLevel f.settings.maxLevel) := by
  have hnamed : (f.touch worker host now).namedAccount worker username = some a.username := by
    rw [namedAccount, boundAccount_touch]
    exact hn
  have hvalid : (f.touch worker host now).isValid a.username now = .ok false := by
    have hfind : f.pool.find? a.username = some a := (Pool.find?_eq_some_iff h).mpr ⟨ha, rfl⟩
    rw [isValid, show (f.touch worker host now).pool = f.pool from rfl, hfind]
    exact congrArg _ hnot
  unfold nextJob
  dsimp only
  rw [hnamed]
  dsimp only
  rw [hvalid]
  rfl

/-! ### Barred accounts -/

/-- The pool has an account of a username, and a quarantine is noted in it. -/
def Barred (f : Fleet Tables) (u : String) (q : Quarantine) : Prop :=
  ∃ a ∈ f.pool.accounts, a.username = u ∧ q.IsNoted a

namespace Barred

theorem congr (h : f.Barred u q) (hb : g.books = f.books) : g.Barred u q := by
  have hpool : g.pool = f.pool := congrArg Books.pool hb
  rw [Barred, hpool]
  exact h

theorem amended {v : String} {k : Account → Account} (h : f.Barred u q) (hg : Amended v k f g)
    (hk : ∀ a, (k a).username = a.username) (hq : ∀ a, q.IsNoted a → q.IsNoted (k a)) :
    g.Barred u q := by
  obtain ⟨a, ha, hu, hnoted⟩ := h
  refine ⟨if a.username = v then k a else a, ?_, (username_amended hk v a).trans hu, ?_⟩
  · rw [hg.records]
    exact List.mem_map_of_mem ha
  · split
    · exact hq a hnoted
    · exact hnoted

theorem entry (h : f.Barred u q) (hf : f.InStep) {now : Instant} {held : String → Prop}
    (hnow : ∀ s ∈ q.since?, s ≤ now) (he : Entry now held f g) : g.Barred u q := by
  cases he with
  | other hsame => exact h.congr hsame.books
  | mark v hm =>
    rcases hf.amended_mark v _ with hn | ha
    · rwa [hn]
    · exact h.amended ha (AccountMark.username_change _) fun a hnoted =>
        Quarantine.isNoted_change hnoted fun s hs t ht => hm t ht ▸ hnow s hs
  | allocate accept =>
    rcases hf.amended_allocate accept now with hn | ⟨a, -, -, -, -, -, ha⟩
    · rwa [hn]
    · exact h.amended ha (Account.username_select now) fun a hnoted =>
        Quarantine.isNoted_select hnoted now
  | release _ =>
    exact h.amended (hf.amended_release _ now) (Account.username_giveBack now) fun a hnoted =>
      Quarantine.isNoted_giveBack hnoted now

theorem entries (h : f.Barred u q) (hf : f.InStep) {now : Instant} {held : String → Prop}
    (hnow : ∀ s ∈ q.since?, s ≤ now) (he : Entries now held f g) : g.Barred u q :=
  (he.keep (P := fun g => g.InStep ∧ g.Barred u q)
    (fun hg hentry => ⟨hg.1.entry hentry, hg.2.entry hg.1 hnow hentry⟩) ⟨hf, h⟩).2

/-- A load finds what is noted in the row of the account too. -/
theorem load (h : f.Barred u q) (hf : f.InStep) {t : Tables} (ht : f.loadedStore e = some t)
    (hg : g.books = (f.refill t).books) : g.Barred u q := by
  obtain ⟨a, ha, hu, hnoted⟩ := h
  obtain ⟨hdistinct, -, hkept⟩ := hf.loadedStore ht
  have hrecords : g.pool = (f.pool.merge t.accounts).2 := congrArg Books.pool hg
  rw [Barred, hrecords]
  rcases hkept a (hf.known a ha) with hmem | ⟨now, hmem⟩
  · exact ⟨a, (Pool.mem_accounts_merge hf.sound hdistinct).mpr hmem, hu, hnoted⟩
  · exact ⟨_, (Pool.mem_accounts_merge hf.sound hdistinct).mpr hmem,
      (Tables.username_stampReleased now a).trans hu,
      Quarantine.isNoted_stampReleased hnoted now⟩

theorem after (h : f.Barred u q) (hf : f.InStep) (he : f.LeavesAccounts e)
    (hnow : ∀ s ∈ q.since?, ∀ t ∈ e.time?, s ≤ t) : (f.after e).Barred u q := by
  have hbooked := hf.booked he
  generalize f.after e = g at hbooked ⊢
  cases hbooked with
  | same hb => exact h.congr hb
  | entries hentries => exact h.entries hf (fun s hs => hnow s hs _ rfl) hentries
  | load ht hg => exact h.load hf ht hg

theorem run (h : f.Barred u q) (hf : f.InStep) {events : List (Event Tables)}
    (hevents : Along LeavesAccounts f events) (hnow : ∀ s ∈ q.since?, ∀ t ∈ times events, s ≤ t) :
    (f.run events).Barred u q := by
  induction events generalizing f with
  | nil => exact h
  | cons e events ih =>
    obtain ⟨he, hevents⟩ := hevents
    have hfirst : ∀ s ∈ q.since?, ∀ t ∈ e.time?, s ≤ t := fun s hs t ht =>
      hnow s hs t (List.mem_filterMap.mpr ⟨e, List.mem_cons_self, ht⟩)
    refine ih (h.after hf he hfirst) (hf.after he) hevents fun s hs t ht => hnow s hs t ?_
    obtain ⟨e', he', ht⟩ := List.mem_filterMap.mp ht
    exact List.mem_filterMap.mpr ⟨e', List.mem_cons_of_mem e he', ht⟩

end Barred

/-! ### What imposes a quarantine -/

/-- An event imposes a quarantine on an account: trouble with it is reported, or it is taken out of
use because a worker passed a ceiling. -/
inductive Imposes (f : Fleet Tables) (u : String) : Quarantine → Event Tables → Prop
  | report (event : AccountEvent) (services : Services) (now : Instant) :
      Imposes f u (event.quarantine now) (.perform (.reportAccount u event) services now)
  | trip {report : RawReport} {host : Option String} (services : Services) {now : Instant}
      (h : (f.recordRaw report host now).1 = some u) :
      Imposes f u (.disabled now) (.perform (.recordRaw report host) services now)

/-- The event that imposes a quarantine makes the mark for it, between other entries. -/
theorem Imposes.marks (h : f.Imposes u q e) (hu : f.pool.exists? u) :
    ∃ now g m, AccountMark.quarantine? m = some q ∧ (∀ t ∈ m.time?, t = now) ∧ e.time? = some now ∧
      Entries now f.IsHeld f g ∧ Entries now f.IsHeld (g.mark u m) (f.after e) := by
  cases h with
  | report event services now =>
    obtain ⟨g, hg, hafter⟩ := f.reportAccount_of_exists hu event
    have hmark : (event.mark now).quarantine? = some (event.quarantine now) := by
      cases event <;> rfl
    refine ⟨now, g, event.mark now, hmark, time_mark event, rfl, hg, ?_⟩
    rw [after, perform, hafter]
  | @trip report host services now htrip =>
    -- Nothing but a passed ceiling makes a report answer with an account.
    obtain ⟨k, hk, hbound, hn | ⟨named, hcut⟩⟩ := f.recordRaw_cases report host now
    · rw [hn] at htrip
      cases htrip
    · have hafter : f.after (.perform (.recordRaw report host) services now) =
          (k.tripAccount report.worker named now).2 := congrArg Prod.snd hcut
      rw [hcut] at htrip
      rw [hafter]
      have hheld : ∀ v, k.boundAccount report.worker = some v → f.IsHeld v := fun v hv =>
        ⟨report.worker, hbound.symm.trans hv⟩
      obtain ⟨g, hg, hn | ⟨v, hv, hrest⟩⟩ := k.tripAccount_cases report.worker named hheld
      · rw [hn] at htrip
        cases htrip
      · rw [hv] at htrip
        cases htrip
        exact ⟨now, g, .disabled now, rfl, by simp, rfl, hk.trans hg, hrest⟩

theorem Imposes.barred (h : f.Imposes u q e) (hf : f.InStep) (hu : f.pool.exists? u) :
    (f.after e).Barred u q ∧ ∀ s ∈ q.since?, s ∈ e.time? := by
  obtain ⟨now, g, m, hm, htime, he, hbefore, hafter⟩ := h.marks hu
  obtain ⟨hplain, hnoted, hsince⟩ := Quarantine.of_mark hm
  have hnow : ∀ s ∈ q.since?, s = now := fun s hs => htime s (hsince s hs)
  obtain ⟨hg, hnames⟩ : g.InStep ∧ g.pool.usernames = f.pool.usernames :=
    hbefore.keep (P := fun k => k.InStep ∧ k.pool.usernames = f.pool.usernames)
      (fun hk hentry => ⟨hk.1.entry hentry, (hk.1.usernames_entry hentry).trans hk.2⟩) ⟨hf, rfl⟩
  obtain ⟨a, ha, hau⟩ := List.mem_map.mp (hnames ▸ Pool.exists?_iff.mp hu)
  have hmarked : (g.mark u m).Barred u q := by
    refine ⟨m.change a, ?_, (m.username_change a).trans hau, hnoted a⟩
    rw [(hg.amended_plain u hplain).records]
    exact mem_amend.mpr ⟨a, ha, if_pos hau⟩
  have hentry : Entry now f.IsHeld g (g.mark u m) := .mark g u htime
  refine ⟨hmarked.entries (hg.entry hentry) (fun s hs => ?_) hafter, fun s hs => ?_⟩
  · exact Int.le_of_eq (hnow s hs)
  · rw [hnow s hs]
    exact he

/-! ### Runs -/

/-- After an event that imposes a quarantine on an account of the pool, and any others at times that
do not decrease, no worker is given the account before the quarantine is over, and every worker that
names it, or names none and is bound to it, is told to switch accounts. -/
theorem run_quarantine (settings : Settings) {store : Tables} (hrows : store.Distinct)
    (hwrites : store.readOnly = false) {before events : List (Event Tables)} {e : Event Tables}
    {u : String} {q : Quarantine}
    (hevents : Along LeavesAccounts (Fleet.new settings store) (before ++ e :: events))
    (htimes : (times (before ++ e :: events)).Pairwise (· ≤ ·))
    (hu : ((Fleet.new settings store).run before).pool.exists? u)
    (he : ((Fleet.new settings store).run before).Imposes u q e) :
    let f := (Fleet.new settings store).run (before ++ e :: events)
    ∀ now, q.Lasts now →
      (∀ worker host c, (f.assignAccount worker host now).1 = .ok c → c.username ≠ u) ∧
      ∀ worker username, f.namedAccount worker username = some u → ∀ services host,
        (f.nextJob services worker username host now).1 =
          .ok (.switchAccount settings.minLevel settings.maxLevel) := by
  intro f now hlasts
  obtain ⟨hbefore, hleaves, hafter⟩ := along_append.mp hevents
  have hstart := ((orderly_new settings hrows hwrites).run hbefore).toInStep
  obtain ⟨hbarred, hsince⟩ := he.barred hstart hu
  have hlater : ∀ s ∈ q.since?, ∀ t ∈ times events, s ≤ t := by
    intro s hs t ht
    rw [times, List.filterMap_append, List.filterMap_cons_some (hsince s hs)] at htimes
    exact (List.pairwise_cons.mp (List.pairwise_append.mp htimes).2.1).1 t ht
  have hf : f.InStep := ((orderly_new settings hrows hwrites).run hevents).toInStep
  have hbar : f.Barred u q := by
    rw [show f = ((((Fleet.new settings store).run before).after e).run events) from
      run_append _ before (e :: events)]
    exact hbarred.run (hstart.after hleaves) hafter hlater
  obtain ⟨a, ha, rfl, hnoted⟩ := hbar
  have hnot := Quarantine.not_isUsable hnoted hlasts
  refine ⟨fun worker host c hc hname => ?_, fun worker username hn services host => ?_⟩
  · obtain ⟨b, hb, rfl, -, husable, -⟩ := assignAccount_ok hf.sound hc
    rw [hf.sound.eq_of_username hb ha hname, hnot] at husable
    cases husable
  · rw [nextJob_of_not_usable hf.sound ha hnot hn services host]
    exact congrArg (fun s : Settings => Except.ok (Job.switchAccount s.minLevel s.maxLevel))
      (settings_run _ _)

def firstShift : List (Event Tables) :=
  [.bootstrap, .initWorker "w1" none, .assignAccount "w1" none].map fun op => .perform op .none 0

/-- A worker passes a ceiling with the account that it has. -/
def overwork : Event Tables := .perform (.recordRaw ⟨"w1", none, 30, [7, 7]⟩ none) .none 10

/-- Loads of accounts, by which all of them get a time of release. -/
def laterLoads : List (Event Tables) :=
  [.perform .reloadAccounts .none 10, .perform (.importAccounts [⟨"bea", "pw", 30⟩]) .none 20,
    .perform .bootstrap .none 30]

/-- The account that was given back is free after the loads, but is not handed out. -/
theorem run_quarantine_overwork :
    let start := (Fleet.new smallSettings smallStore).run firstShift
    let f := (Fleet.new smallSettings smallStore).run (firstShift ++ overwork :: laterLoads)
    smallStore.Distinct ∧ smallStore.readOnly = false ∧
      Along LeavesAccounts (Fleet.new smallSettings smallStore)
        (firstShift ++ overwork :: laterLoads) ∧
      (times (firstShift ++ overwork :: laterLoads)).Pairwise (· ≤ ·) ∧
      start.pool.exists? "ada" ∧ start.Imposes "ada" (.disabled 10) overwork ∧
      (Quarantine.disabled 10).Lasts 40 ∧
      f.pool.slots.map (fun s => (s.account.username, s.account.lastReleased, s.inUse)) =
        [("ada", some 10, false), ("bea", some 30, false)] ∧
      (∀ c, (f.assignAccount "w1" none 40).1 = .ok c → c.username ≠ "ada") ∧
      (f.nextJob .none "w1" (some "ada") none 40).1 = .ok (.switchAccount 30 40) := by
  intro start f
  have hrows : smallStore.Distinct := by decide +kernel
  have hevents : Along LeavesAccounts (Fleet.new smallSettings smallStore)
      (firstShift ++ overwork :: laterLoads) := by decide +kernel
  have htimes : (times (firstShift ++ overwork :: laterLoads)).Pairwise (· ≤ ·) := by decide +kernel
  have hu : start.pool.exists? "ada" := by decide +kernel
  have htrip : (start.recordRaw ⟨"w1", none, 30, [7, 7]⟩ none 10).1 = some "ada" := by
    decide +kernel
  have hlasts : (Quarantine.disabled 10).Lasts 40 := by
    change (40 : Int) < 10 + Span.ofHours 24
    decide
  have hslots : f.pool.slots.map (fun s => (s.account.username, s.account.lastReleased, s.inUse)) =
      [("ada", some 10, false), ("bea", some 30, false)] := by decide +kernel
  have hnamed : f.namedAccount "w1" (some "ada") = some "ada" := by decide +kernel
  obtain ⟨hassign, hjob⟩ :=
    run_quarantine smallSettings hrows rfl hevents htimes hu (.trip .none htrip) 40 hlasts
  exact ⟨hrows, rfl, hevents, htimes, hu, .trip .none htrip, hlasts, hslots,
    hassign "w1" none, hjob "w1" (some "ada") hnamed .none none⟩

end Fleet

end ScanFleet
