import ScanFleet.Proofs.Fleet.Bindings
import ScanFleet.Proofs.Pool.Records
import ScanFleet.Proofs.Session.Usage

/-! The breaker that takes an account out of use when its worker reports too many messages.  Beside
a run goes the log of what a worker reported since its session began or the breaker last tripped;
the counts of the session are those of the log.  Only reports and logouts touch the counts, so the
breaker trips when the log with the present report passes a ceiling, and at no other time. -/

namespace ScanFleet

/-- The account after it was taken out of use, and given back if it was held. -/
def Account.takeOut (a : Account) (held : Bool) (now : Instant) : Account :=
  { a with
    disabled := true
    lastDisabled := some now
    lastReleased := if held then some now else a.lastReleased }

namespace Fleet

variable {σ : Type}

/-! ### Counts and ceilings -/

def usageOf (f : Fleet σ) (worker : String) : Usage :=
  ((f.sessions.find? worker).map (·.usage)).getD .zero

/-- `g` has the ceilings and the counts of `f`. -/
structure SameCounts (f g : Fleet σ) : Prop where
  limits : g.sessions.limits = f.sessions.limits
  usage : ∀ worker, g.usageOf worker = f.usageOf worker

namespace SameCounts

variable {f g : Fleet σ}

theorem of_sessions (h : g.sessions = f.sessions) : SameCounts f g :=
  ⟨by rw [h], fun worker => by rw [usageOf, h]; rfl⟩

theorem refl (f : Fleet σ) : SameCounts f f := of_sessions rfl

theorem trans {k : Fleet σ} (h1 : SameCounts f g) (h2 : SameCounts g k) : SameCounts f k :=
  ⟨h2.limits.trans h1.limits, fun worker => (h2.usage worker).trans (h1.usage worker)⟩

theorem map {k : Session → Session} (hlimits : g.sessions.limits = f.sessions.limits)
    (hlist : g.sessions.list = f.sessions.list.map k) (hid : ∀ x, (k x).id = x.id)
    (husage : ∀ x, (k x).usage = x.usage) : SameCounts f g := by
  refine ⟨hlimits, fun worker => ?_⟩
  rw [usageOf, usageOf, Sessions.find?, hlist, Keyed.find?_map (k := fun x : Session => x.id) hid,
    Option.map_map]
  exact congrArg (fun u => Option.getD u Usage.zero) (congrArg (Option.map · _) (funext husage))

theorem modifySession (f : Fleet σ) (worker : String) {k : Session → Session}
    (hid : ∀ x, (k x).id = x.id) (husage : ∀ x, (k x).usage = x.usage) :
    SameCounts f (f.modifySession worker k) := by
  refine map (f := f) rfl rfl (fun x => ?_) (fun x => ?_)
  · split
    · exact hid x
    · rfl
  · split
    · exact husage x
    · rfl

theorem touch (f : Fleet σ) (worker : String) (host : Option String) (now : Instant) :
    SameCounts f (f.touch worker host now) := by
  refine ⟨Sessions.limits_touch _ _ _ _, fun other => ?_⟩
  rw [usageOf, usageOf, Fleet.touch, Sessions.find?_touch_eq]
  split
  next h =>
    subst h
    cases f.sessions.find? other <;> rfl
  next => rfl

theorem recalculate (hd : f.sessions.Distinct) (area : Int) (now : Instant) :
    SameCounts f (f.recalculate area now).2 := by
  obtain ⟨k, hk, hsame⟩ := map_recalculate hd area now
  refine map ?_ hk (fun x => (hsame x).1.id) fun x => (hsame x).1.usage
  obtain ⟨list, hlist⟩ := exists_list_recalculate f area now
  rw [hlist]

end SameCounts

theorem sameCounts_reconcile {f : Fleet σ} (hd : f.sessions.Distinct) (rows : List AreaRecord) :
    SameCounts f (f.reconcile rows) := by
  obtain ⟨list, hlist⟩ := exists_list_reconcile f rows
  refine .map (by rw [hlist]) (list_reconcile hd rows) (id_unbound _) fun x => ?_
  unfold unbound
  split <;> rfl

variable [Store σ] {f g : Fleet σ} {now : Instant}

theorem QuietMove.sameCounts (h : QuietMove now f g) (hd : f.sessions.Distinct) :
    SameCounts f g := by
  cases h with
  | note h => exact .of_sessions h.sessions
  | touch worker host => exact .touch f worker host now
  | settle harea hnone => exact .modifySession f _ (by intro; rfl) (by intro; rfl)
  | recut area => exact .recalculate hd area now
  | advance worker => exact .modifySession f worker (by intro; rfl) (by intro; rfl)
  | renew ha hb => exact .of_sessions rfl
  | @grant worker accept c hworker hc =>
    exact (SameCounts.modifySession f worker (by intro; rfl) (by intro; rfl)).trans
      (.of_sessions (grant_sessions f worker accept c.username now))

theorem QuietMoves.sameCounts (h : QuietMoves now f g) (hd : f.sessions.Distinct) :
    g.sessions.Distinct ∧ SameCounts f g := by
  induction h with
  | refl => exact ⟨hd, .refl f⟩
  | tail _ hmove ih =>
    exact ⟨(Move.quiet hmove).distinct ih.1, ih.2.trans (hmove.sameCounts ih.1)⟩

/-! ### The parts of a report -/

section

variable (f : Fleet σ) (host : Option String) (now : Instant) (report : RawReport)

theorem heard_sessions :
    (f.heard host now report).sessions = f.sessions.touch report.worker host now := by
  unfold heard
  dsimp only
  split
  · split
    · exact (notes_setLevel _ _ _).sessions
    · rfl
  · rfl

theorem usageOf_counted (worker : String) :
    (f.counted host now report).usageOf worker =
      if worker = report.worker then (f.usageOf worker).record report.methods
      else f.usageOf worker := by
  rw [usageOf, counted, modifySession, Sessions.find?_modify (by intro; rfl), heard_sessions,
    Sessions.find?_touch_eq]
  split
  next h =>
    subst h
    rw [usageOf]
    cases f.sessions.find? report.worker <;> rfl
  next => rfl

theorem limits_counted : (f.counted host now report).sessions.limits = f.sessions.limits := by
  have hlimits : (f.heard host now report).sessions.limits = f.sessions.limits := by
    rw [heard_sessions, Sessions.limits_touch]
  exact hlimits

theorem boundAccount_counted (worker : String) :
    (f.counted host now report).boundAccount worker = f.boundAccount worker := by
  rw [counted, boundAccount_modifySession_same _ (by intro; rfl) (by intro; rfl), boundAccount,
    heard_sessions]
  exact boundAccount_touch f report.worker host now worker

theorem isOverLimit_counted :
    (f.counted host now report).isOverLimit report.worker =
      f.sessions.limits.exceededBy ((f.usageOf report.worker).record report.methods) := by
  have hfind : ((f.counted host now report).sessions.find? report.worker).isSome := by
    rw [counted, modifySession, Sessions.find?_modify (by intro; rfl), heard_sessions,
      Sessions.find?_touch_eq]
    simp
  obtain ⟨x, hx⟩ := Option.isSome_iff_exists.mp hfind
  have husage := usageOf_counted f host now report report.worker
  rw [usageOf, hx, Option.map_some, Option.getD_some, if_pos rfl] at husage
  rw [isOverLimit, hx, Option.any_some, limits_counted, husage]

theorem usageOf_tripAccount (worker : String) (named : Option String) (other : String) :
    (f.tripAccount worker named now).2.usageOf other =
      if other = worker then .zero else f.usageOf other := by
  rw [usageOf, (sameWork_tripAccount f worker named now).sessions, modifySession,
    Sessions.find?_modify (by intro; rfl)]
  split
  · cases f.sessions.find? other <;> rfl
  · rfl

theorem usageOf_recordRaw (worker : String) :
    (f.recordRaw report host now).2.usageOf worker =
      if worker = report.worker then
        if (f.counted host now report).isOverLimit worker then .zero
        else (f.usageOf worker).record report.methods
      else f.usageOf worker := by
  rw [recordRaw_eq]
  by_cases hw : worker = report.worker
  · subst hw
    split
    · rw [usageOf_tripAccount, if_pos rfl, if_pos rfl]
    · rw [usageOf_counted, if_pos rfl]
  · rw [if_neg hw]
    split
    · rw [usageOf_tripAccount, if_neg hw, usageOf_counted, if_neg hw]
    · rw [usageOf_counted, if_neg hw]

end

/-! ### The log of a worker -/

/-- The log of a worker after an event.  A logout closes it, and so does a report by which the
breaker trips. -/
def noteReport (limits : UsageLimits) (worker : String) (log : List MessageType) :
    Event σ → List MessageType
  | .perform (.recordRaw report _) _ _ =>
    if report.worker = worker then
      if limits.Exceeded (log ++ report.methods) then [] else log ++ report.methods
    else log
  | .perform (.logout other) _ _ => if other = worker then [] else log
  | _ => log

/-- What a worker reported in a run since its session began or the breaker last tripped. -/
def reported (limits : UsageLimits) (worker : String) (events : List (Event σ)) :
    List MessageType :=
  events.foldl (noteReport limits worker) []

omit [Store σ] in
theorem not_exceeded_reported (limits : UsageLimits) (worker : String) (events : List (Event σ)) :
    ¬ limits.Exceeded (reported limits worker events) := by
  -- The induction needs any log within the ceilings, not the empty one alone.
  suffices hkeep : ∀ log, ¬ limits.Exceeded log →
      ¬ limits.Exceeded (events.foldl (noteReport limits worker) log) from
    hkeep [] limits.not_exceeded_nil
  intro log hlog
  induction events generalizing log with
  | nil => exact hlog
  | cons e events ih =>
    refine ih _ ?_
    unfold noteReport
    split
    · split
      · split
        next => exact limits.not_exceeded_nil
        next h => exact h
      · exact hlog
    · split
      · exact limits.not_exceeded_nil
      · exact hlog
    · exact hlog

omit [Store σ] in
theorem noteReport_of_other {e : Event σ} (hreport : ¬ e.IsReport)
    (hlogout : ∀ other services now, e ≠ .perform (.logout other) services now)
    (limits : UsageLimits) (worker : String) (log : List MessageType) :
    noteReport limits worker log e = log := by
  unfold noteReport
  split
  · exact absurd trivial hreport
  · exact absurd rfl (hlogout _ _ _)
  · rfl

/-- The ceilings are those of the settings, and a worker's counts are those of its log. -/
structure Metered (f : Fleet σ) (worker : String) (log : List MessageType) : Prop where
  limits : f.sessions.limits = f.settings.limits
  counts : ∀ kind, (f.usageOf worker).count kind = log.count kind

namespace Metered

variable {worker : String} {log : List MessageType}

omit [Store σ] in
theorem sameCounts (h : f.Metered worker log) (hs : SameCounts f g)
    (hset : g.settings = f.settings) : g.Metered worker log :=
  ⟨by rw [hs.limits, hset]; exact h.limits, fun kind => by rw [hs.usage]; exact h.counts kind⟩

theorem quiet (h : f.Metered worker log) (hd : f.sessions.Distinct) (hm : QuietMoves now f g) :
    g.Metered worker log :=
  h.sameCounts (hm.sameCounts hd).2 hm.moves.settings

theorem isOverLimit {report : RawReport} (h : f.Metered report.worker log) (host : Option String)
    (now : Instant) :
    (f.counted host now report).isOverLimit report.worker ↔
      f.settings.limits.Exceeded (log ++ report.methods) := by
  rw [isOverLimit_counted, h.limits]
  refine UsageLimits.exceededBy_iff fun kind => ?_
  rw [Usage.count_record, h.counts, List.count_append]

theorem recordRaw (h : f.Metered worker log) (report : RawReport) (host : Option String)
    (services : Services) (now : Instant) :
    (f.recordRaw report host now).2.Metered worker
      (noteReport f.settings.limits worker log
        (.perform (.recordRaw report host) services now : Event σ)) := by
  have hlimits : (f.recordRaw report host now).2.sessions.limits = f.sessions.limits := by
    rw [recordRaw_eq]
    split
    · rw [(sameWork_tripAccount _ _ _ _).sessions]
      exact limits_counted f host now report
    · exact limits_counted f host now report
  refine ⟨by rw [hlimits, (moves_recordRaw f host now report).settings]; exact h.limits,
    fun kind => ?_⟩
  rw [usageOf_recordRaw, noteReport]
  by_cases hw : report.worker = worker
  · subst hw
    rw [if_pos rfl, if_pos rfl]
    simp only [h.isOverLimit host now]
    split
    · rfl
    · rw [Usage.count_record, h.counts, List.count_append]
  · rw [if_neg (Ne.symm hw), if_neg hw]
    exact h.counts kind

theorem forget (h : f.Metered worker log) (s : Session) (now : Instant) :
    (f.forget s now).Metered worker (if s.id = worker then [] else log) := by
  have hwork := sameWork_forget f s now
  refine ⟨by rw [hwork.sessions, hwork.settings]; exact h.limits, fun kind => ?_⟩
  rw [usageOf, hwork.sessions, Sessions.find?_remove]
  by_cases hw : s.id = worker
  · rw [if_pos hw.symm, if_pos hw]
    rfl
  · rw [if_neg (Ne.symm hw), if_neg hw]
    exact h.counts kind

omit [Store σ] in
theorem nil_of_none (h : f.Metered worker log) (hnone : f.sessions.find? worker = none) :
    f.Metered worker [] := by
  refine ⟨h.limits, fun kind => ?_⟩
  rw [usageOf, hnone]
  rfl

theorem logout (h : f.Metered worker log) (hf : f.Sound) (other : String) (now : Instant) :
    (f.logout other now).2.Metered worker (if other = worker then [] else log) := by
  cases hs : f.sessions.find? other with
  | none =>
    have hquiet := (notes_logout hs now).quietMoves now
    split
    next hw =>
      rw [hw] at hs
      exact (h.nil_of_none hs).quiet hf.distinct hquiet
    next => exact h.quiet hf.distinct hquiet
  | some s =>
    obtain rfl := Sessions.id_of_find? hs
    exact (h.forget s now).quiet (hf.forget s now).distinct (quietMoves_logout hs now)

theorem after (h : f.Metered worker log) (hf : f.Sound) (e : Event σ) :
    (f.after e).Metered worker (noteReport f.settings.limits worker log e) := by
  by_cases hreport : e.IsReport
  · match e with
    | .perform (.recordRaw report host) services now => exact h.recordRaw report host services now
  by_cases hlogout : ∀ other services now, e ≠ .perform (.logout other) services now
  · -- No other event touches the log, nor the counts.
    rw [noteReport_of_other hreport hlogout]
    have hout := f.outcome e
    generalize f.after e = g at hout ⊢
    cases hout with
    | moves now hm hquiet => exact h.quiet hf.distinct (hquiet hreport)
    | logout hs => exact absurd rfl (hlogout _ _ _)
    | load hwork hpool => exact h.sameCounts (.of_sessions hwork.sessions) hwork.settings
    | @startup services now =>
      have hext := (bootstrap_keeps f now).1
      exact h.sameCounts (.of_sessions hext.sessions) hext.settings
    | @reload rows services now hrows =>
      rw [hrows]
      have hrec := h.sameCounts (sameCounts_reconcile hf.distinct rows) (reconcile_keeps f rows).1
      exact hrec.quiet (hf.reconcile rows).distinct (quietMoves_recalculateAll _ _ now)
  · push Not at hlogout
    obtain ⟨other, services, now, rfl⟩ := hlogout
    exact h.logout hf other now

theorem run (h : f.Metered worker log) (hf : f.Sound) (events : List (Event σ)) :
    (f.run events).Metered worker (events.foldl (noteReport f.settings.limits worker) log) := by
  induction events generalizing f log with
  | nil => exact h
  | cons e events ih =>
    have hnext := ih (h.after hf e) (hf.after e)
    rw [settings_after] at hnext
    exact hnext

end Metered

omit [Store σ] in
theorem metered_new (settings : Settings) (store : σ) (worker : String) :
    (Fleet.new settings store).Metered worker [] :=
  ⟨rfl, fun _ => rfl⟩

/-! ### What a report does to accounts and bindings -/

section

variable (f : Fleet σ) (report : RawReport)

/-- The account that a report is about: that of its worker, or else the one that it names. -/
def accountOfReport : Option String :=
  f.boundAccount report.worker <|> report.username.filter (· != "")

/-- An account after the level in a report was noted. -/
def levelled (a : Account) : Account :=
  if 0 < report.level ∧ f.namedAccount report.worker report.username = some a.username then
    { a with level := report.level }
  else a

/-- What a report does by which the breaker trips. -/
structure Trips (now : Instant) (result : Option String × Fleet σ) : Prop where
  emptied : ∃ x, result.2.sessions.find? report.worker = some x ∧ x.usage = .zero
  named : result.1 = f.accountOfReport report
  unbound : ∀ worker, result.2.boundAccount worker =
    if worker = report.worker then none else f.boundAccount worker
  accounts : result.2.pool.accounts = f.pool.accounts.map fun a =>
    if result.1 = some a.username then
      (f.levelled report a).takeOut (f.boundAccount report.worker).isSome now
    else f.levelled report a
  inUse : ∀ u, result.2.pool.isInUse u =
    (decide (f.boundAccount report.worker ≠ some u) && f.pool.isInUse u)

/-- What any other report does. -/
structure Passes (result : Option String × Fleet σ) : Prop where
  silent : result.1 = none
  bindings : ∀ worker, result.2.boundAccount worker = f.boundAccount worker
  accounts : result.2.pool.accounts = f.pool.accounts.map (f.levelled report)
  inUse : ∀ u, result.2.pool.isInUse u = f.pool.isInUse u

end

/-! ### The records of accounts after a report -/

theorem accounts_setLevel (hp : f.pool.Sound) (u : String) (level : Int) :
    (f.setLevel u level).pool.accounts = amend u ({ · with level }) f.pool.accounts := by
  unfold setLevel
  split
  next hnone =>
    refine (amend_eq_self fun hu => ?_).symm
    obtain ⟨a, ha, hau⟩ := List.mem_map.mp hu
    rw [(Pool.find?_eq_some_iff hp).mpr ⟨ha, hau⟩] at hnone
    cases hnone
  next a ha =>
    obtain ⟨hmem, hu⟩ := (Pool.find?_eq_some_iff hp).mp ha
    split
    next hlevel =>
      have hsame : amend u ({ · with level }) f.pool.accounts = amend u id f.pool.accounts := by
        refine amend_congr fun b hb hbu => ?_
        rw [hp.eq_of_username hb hmem (hbu.trans hu.symm), ← hlevel]
        rfl
      rw [hsame, amend]
      simp
    next => exact Pool.accounts_modifyAccount hp u _

omit [Store σ] in
theorem namedAccount_touch (f : Fleet σ) (worker : String) (host : Option String) (now : Instant)
    (w : String) (username : Option String) :
    (f.touch worker host now).namedAccount w username = f.namedAccount w username := by
  rw [namedAccount, boundAccount_touch]
  rfl

theorem heard_pool (hp : f.pool.Sound) (host : Option String) (now : Instant)
    (report : RawReport) :
    (f.heard host now report).pool.accounts = f.pool.accounts.map (f.levelled report) ∧
      Pool.SameFlags f.pool (f.heard host now report).pool := by
  unfold heard levelled
  simp only [namedAccount_touch]
  split
  next u hu =>
    split
    next hlevel =>
      refine ⟨?_, (notes_setLevel (f.touch report.worker host now) u report.level).flags⟩
      rw [accounts_setLevel (f := f.touch report.worker host now) hp]
      refine List.map_congr_left fun a _ => ?_
      simp [hlevel, hu, eq_comm]
    next hlevel =>
      refine ⟨?_, .refl _⟩
      simp [hlevel, touch]
  next hnone =>
    refine ⟨?_, .refl _⟩
    simp [hnone, touch]

theorem tripAccount_fst (f : Fleet σ) (worker : String) (named : Option String) (now : Instant) :
    (f.tripAccount worker named now).1 = (f.boundAccount worker <|> named) := by
  unfold tripAccount
  dsimp only
  cases f.boundAccount worker <;> cases named <;> rfl

theorem accounts_tripAccount (hp : f.pool.Sound) (worker : String) (named : Option String)
    (now : Instant) :
    (f.tripAccount worker named now).2.pool.accounts = f.pool.accounts.map fun a =>
      if (f.boundAccount worker <|> named) = some a.username then
        a.takeOut (f.boundAccount worker).isSome now
      else a := by
  have hmark (u : String) : (f.pool.markDisabled u now).Sound :=
    (Pool.sameFlags_modifyAccount (by intro; rfl) f.pool u).sound hp
  have hdisabled (u : String) := Pool.accounts_modifyAccount hp u
    fun a => { a with disabled := true, lastDisabled := some now }
  rw [tripAccount_pool]
  cases hb : f.boundAccount worker with
  | some u =>
    dsimp only
    rw [Pool.accounts_release (hmark u), Pool.markDisabled, hdisabled, amend, amend, List.map_map]
    refine List.map_congr_left fun a _ => ?_
    by_cases ha : a.username = u
    · simp [ha, Account.giveBack, Account.takeOut]
    · simp [ha, Ne.symm ha]
  | none =>
    cases named with
    | some u =>
      dsimp only
      rw [Pool.markDisabled, hdisabled, amend]
      refine List.map_congr_left fun a _ => ?_
      by_cases ha : a.username = u
      · simp [ha, Account.takeOut]
      · simp [ha, Ne.symm ha]
    | none => simp

/-! ### Reports in every state -/

theorem trips_of_isOverLimit (hp : f.pool.Sound) {host : Option String} {report : RawReport}
    (h : (f.counted host now report).isOverLimit report.worker) :
    f.Trips report now (f.recordRaw report host now) := by
  obtain ⟨haccounts, hflags⟩ := heard_pool hp host now report
  have hcounted : (f.counted host now report).pool.Sound := hflags.sound hp
  have hbound := boundAccount_counted f host now report
  -- The reported name counts only where none is bound, before the touch as after it.
  have hname : (f.boundAccount report.worker <|>
      (f.touch report.worker host now).namedAccount report.worker report.username) =
        f.accountOfReport report := by
    rw [namedAccount_touch, namedAccount, accountOfReport]
    cases f.boundAccount report.worker <;> simp
  have hfst : ((f.counted host now report).tripAccount report.worker
      ((f.touch report.worker host now).namedAccount report.worker report.username) now).1 =
        f.accountOfReport report := by
    rw [tripAccount_fst, hbound, hname]
  rw [recordRaw_eq, if_pos h]
  refine ⟨?_, hfst, fun worker => ?_, ?_, fun u => ?_⟩
  · obtain ⟨x, hx, -⟩ := (Option.any_eq_true _ _).mp h
    rw [(sameWork_tripAccount _ _ _ _).sessions, modifySession,
      Sessions.find?_modify (by intro; rfl), if_pos rfl, hx]
    exact ⟨_, rfl, rfl⟩
  · rw [boundAccount_tripAccount, hbound]
  · rw [hfst, accounts_tripAccount hcounted, hbound, hname]
    have haccounts' : (f.counted host now report).pool.accounts =
        f.pool.accounts.map (f.levelled report) := haccounts
    rw [haccounts', List.map_map]
    refine List.map_congr_left fun a _ => ?_
    have husername : (f.levelled report a).username = a.username := by
      unfold levelled
      split <;> rfl
    simp only [Function.comp_apply, husername]
  · rw [isInUse_tripAccount hcounted, hbound]
    exact congrArg _ (hflags.isInUse u)

theorem passes_of_not_isOverLimit (hp : f.pool.Sound) {host : Option String} {report : RawReport}
    (h : ¬ (f.counted host now report).isOverLimit report.worker) :
    f.Passes report (f.recordRaw report host now) := by
  obtain ⟨haccounts, hflags⟩ := heard_pool hp host now report
  rw [recordRaw_eq, if_neg h]
  exact ⟨rfl, boundAccount_counted f host now report, haccounts, hflags.isInUse⟩

/-- In every state of a run a report trips the breaker exactly when some kind of message occurs more
often than its ceiling in the log of the worker and the report together.  So no session is ever over
a limit. -/
theorem run_recordRaw (settings : Settings) (store : σ) (events : List (Event σ))
    (report : RawReport) (host : Option String) (now : Instant) :
    let f := (Fleet.new settings store).run events
    let log := reported settings.limits report.worker events ++ report.methods
    ((f.counted host now report).isOverLimit report.worker ↔ settings.limits.Exceeded log) ∧
      (if settings.limits.Exceeded log then f.Trips report now (f.recordRaw report host now)
        else f.Passes report (f.recordRaw report host now)) ∧
      ∀ x ∈ f.sessions.list, ∀ c ∈ settings.limits.ceilings, 0 < c.2 → x.usage.count c.1 ≤ c.2 := by
  intro f log
  have hsound : f.Sound := (sound_new settings store).run events
  have hpool : f.pool.Sound := poolSound_run Pool.sound_empty events
  have hset : f.settings = settings := settings_run _ events
  have hmetered (worker : String) :
      f.Metered worker (reported settings.limits worker events) :=
    (metered_new settings store worker).run (sound_new settings store) events
  have htrip : (f.counted host now report).isOverLimit report.worker ↔
      settings.limits.Exceeded log := by
    rw [(hmetered report.worker).isOverLimit host now, hset]
  refine ⟨htrip, ?_, fun x hx c hc hpos => ?_⟩
  · split
    next h => exact trips_of_isOverLimit hpool (htrip.mpr h)
    next h => exact passes_of_not_isOverLimit hpool (mt htrip.mp h)
  · have hcount := (hmetered x.id).counts c.1
    rw [usageOf, Sessions.find?_of_mem hsound.distinct hx] at hcount
    have hlog := not_exceeded_reported settings.limits x.id events
    by_contra hover
    refine hlog ⟨c, hc, hpos, ?_⟩
    rw [← hcount]
    exact Nat.lt_of_not_le hover

/-- The second message of kind 7 is one too many, also under another account than the first. -/
theorem run_recordRaw_secondMessage :
    let report : RawReport := ⟨"w", none, 30, [5, 7]⟩
    let events : List (Event Tables) := [.perform .bootstrap .none 0,
      .perform (.initWorker "w" none) .none 0, .perform (.assignAccount "w" none) .none 0,
      .perform (.recordRaw ⟨"w", none, 0, [7]⟩ none) .none 1,
      .perform (.importAccounts [⟨"bea", "pw", 30⟩]) .none 2,
      .perform .bootstrap .none 2, .perform (.assignAccount "w" none) .none 2]
    let f := (Fleet.new smallSettings smallStore).run events
    f.Trips report 3 (f.recordRaw report none 3) ∧ (f.recordRaw report none 3).1 = some "bea" := by
  intro report events f
  have h := (run_recordRaw smallSettings smallStore events report none 3).2.1
  rw [if_pos (by decide)] at h
  exact ⟨h, by rw [h.named]; decide +kernel⟩

end Fleet

end ScanFleet
