import ScanFleet.Proofs.Fleet.Run

/-! The accounts that workers are bound to, and the flags of the pool.  A grant raises the flag
of the account that it binds and lowers that of the one it displaces, and whoever loses an
account lowers its flag.  An event is made of such changes, or it loads rows into the pool.
Bindings and flags match when the flags that are up are those of the bound accounts and no
account is bound twice; all changes but the loads keep that. -/

namespace ScanFleet.Fleet

variable {σ : Type}

/-! ### What changes of sessions do to the bindings -/

theorem boundAccount_of_mem {f : Fleet σ} (hd : f.sessions.Distinct) {x : Session}
    (hx : x ∈ f.sessions.list) : f.boundAccount x.id = x.username := by
  rw [boundAccount, Sessions.find?_of_mem hd hx]
  rfl

theorem boundAccount_eq_some {f : Fleet σ} {worker u : String}
    (h : f.boundAccount worker = some u) :
    ∃ x ∈ f.sessions.list, x.id = worker ∧ x.username = some u := by
  obtain ⟨x, hx, hu⟩ := Option.bind_eq_some_iff.mp h
  exact ⟨x, Sessions.mem_of_find? hx, Sessions.id_of_find? hx, hu⟩

theorem boundAccount_map {f g : Fleet σ} {k : Session → Session}
    (hg : g.sessions.list = f.sessions.list.map k) (hid : ∀ x, (k x).id = x.id)
    (hname : ∀ x, (k x).username = x.username) (worker : String) :
    g.boundAccount worker = f.boundAccount worker := by
  simp only [boundAccount, Sessions.find?, hg]
  rw [Keyed.find?_map (k := fun x : Session => x.id) hid, Option.bind_map]
  exact congrArg _ (funext hname)

theorem boundAccount_modifySession (f : Fleet σ) {k : Session → Session}
    (hid : ∀ x, (k x).id = x.id) (worker w : String) :
    (f.modifySession worker k).boundAccount w =
      if w = worker then (f.sessions.find? w).bind fun x => (k x).username
      else f.boundAccount w := by
  rw [boundAccount, modifySession, Sessions.find?_modify hid]
  split
  · rw [Option.bind_map]
    rfl
  · rfl

theorem boundAccount_modifySession_same (f : Fleet σ) {k : Session → Session}
    (hid : ∀ x, (k x).id = x.id) (hname : ∀ x, (k x).username = x.username) (worker w : String) :
    (f.modifySession worker k).boundAccount w = f.boundAccount w :=
  Sessions.bind_find?_modify hid hname f.sessions worker w

theorem boundAccount_touch (f : Fleet σ) (worker : String) (host : Option String) (now : Instant)
    (w : String) : (f.touch worker host now).boundAccount w = f.boundAccount w :=
  Sessions.bind_find?_touch (fun _ _ _ => rfl) (fun _ _ _ => rfl) f.sessions worker host now w

theorem displaced_eq (f : Fleet σ) (worker u : String) :
    (f.sessions.find? worker).bind (·.displaced u) = (f.boundAccount worker).filter (· != u) := by
  rw [boundAccount]
  cases f.sessions.find? worker <;> rfl

/-! ### Changes of bindings and flags -/

/-- What a change does to the bindings and the flags: nothing, or one worker gives up its account
and gets another one that was not in use, or none, and the flags follow. -/
inductive Regrant (f g : Fleet σ) : Prop
  | keep (hb : ∀ w, g.boundAccount w = f.boundAccount w)
      (hu : ∀ u, g.pool.isInUse u = f.pool.isInUse u) : Regrant f g
  | assign (worker : String) (c : Option String)
      (hfree : ∀ u, c = some u → f.pool.isInUse u = false)
      (hb : ∀ w, g.boundAccount w = if w = worker then c else f.boundAccount w)
      (hu : ∀ u, g.pool.isInUse u =
        (decide (c = some u) || (decide (f.boundAccount worker ≠ some u) && f.pool.isInUse u))) :
      Regrant f g

/-- A change of bindings and flags in a fleet that stays in order, with the accounts that it had. -/
structure Rebinds (f g : Fleet σ) : Prop where
  sessions : g.sessions.Distinct
  pool : g.pool.Sound
  usernames : g.pool.usernames = f.pool.usernames
  regrant : Regrant f g

section

variable [Store σ] {f g : Fleet σ} {now : Instant}

theorem bindAccount_pool (f : Fleet σ) (worker u : String) (now : Instant) :
    (f.bindAccount worker u now).pool =
      match (f.sessions.find? worker).bind (·.displaced u) with
      | some previous => f.pool.release previous now
      | none => f.pool := by
  unfold bindAccount
  cases (f.sessions.find? worker).bind (·.displaced u) <;> rfl

theorem tripAccount_pool (f : Fleet σ) (worker : String) (named : Option String) (now : Instant) :
    (f.tripAccount worker named now).2.pool =
      match f.boundAccount worker, named with
      | some u, _ => (f.pool.markDisabled u now).release u now
      | none, some u => f.pool.markDisabled u now
      | none, none => f.pool := by
  unfold tripAccount
  dsimp only
  split <;> simp_all [release_pool, markDisabled, persist, modifySession]

theorem poolSound_tripAccount (hp : f.pool.Sound) (worker : String) (named : Option String)
    (now : Instant) : (f.tripAccount worker named now).2.pool.Sound := by
  have hmark (u : String) : (f.pool.markDisabled u now).Sound :=
    (Pool.sameFlags_modifyAccount (by intro; rfl) f.pool u).sound hp
  rw [tripAccount_pool]
  split
  · exact (hmark _).release _ _
  · exact hmark _
  · exact hp

/-- The breaker gives back the account that the worker was bound to, and no other. -/
theorem isInUse_tripAccount (hp : f.pool.Sound) (worker : String) (named : Option String)
    (now : Instant) (u : String) :
    (f.tripAccount worker named now).2.pool.isInUse u =
      (decide (f.boundAccount worker ≠ some u) && f.pool.isInUse u) := by
  have hflags (v : String) : Pool.SameFlags f.pool (f.pool.markDisabled v now) :=
    Pool.sameFlags_modifyAccount (by intro; rfl) f.pool v
  rw [tripAccount_pool]
  cases hb : f.boundAccount worker with
  | none => cases named <;> simp [(hflags _).isInUse]
  | some v =>
    simp [Pool.isInUse_release ((hflags v).sound hp), (hflags v).isInUse, eq_comm]

theorem boundAccount_tripAccount (f : Fleet σ) (worker : String) (named : Option String)
    (now : Instant) (w : String) :
    (f.tripAccount worker named now).2.boundAccount w =
      if w = worker then none else f.boundAccount w := by
  rw [boundAccount, (sameWork_tripAccount f worker named now).sessions]
  refine (boundAccount_modifySession f (k := tripped) (by intro; rfl) worker w).trans ?_
  split
  · cases f.sessions.find? w <;> rfl
  · rfl

theorem Move.poolSound (h : Move now f g) (hp : f.pool.Sound) : g.pool.Sound := by
  cases h with
  | quiet h =>
    cases h with
    | note h => exact h.flags.sound hp
    | recut area =>
      rw [recalculate_pool]
      exact hp
    | grant hworker hc =>
      rw [bindAccount_pool, allocate_pool]
      split
      · exact (hp.allocate _ _).release _ _
      · exact hp.allocate _ _
    | touch | settle | advance | renew => exact hp
  | count worker kinds => exact hp
  | trip worker named => exact poolSound_tripAccount hp worker named now

theorem Move.usernames (h : Move now f g) : g.pool.usernames = f.pool.usernames := by
  cases h with
  | quiet h =>
    cases h with
    | note h => exact h.flags.usernames
    | recut area => rw [recalculate_pool]
    | grant hworker hc =>
      rw [bindAccount_pool, allocate_pool]
      split
      · rw [Pool.usernames_release, Pool.usernames_allocate]
      · rw [Pool.usernames_allocate]
    | touch | settle | advance | renew => rfl
  | count worker kinds => rfl
  | trip worker named =>
    have hmark (u : String) : (f.pool.markDisabled u now).usernames = f.pool.usernames :=
      (Pool.sameFlags_modifyAccount (by intro; rfl) f.pool u).usernames
    rw [tripAccount_pool]
    split
    · rw [Pool.usernames_release, hmark]
    · rw [hmark]
    · rfl

theorem regrant_grant (hp : f.pool.Sound) {worker : String} {accept : Account → Bool}
    {c : Credentials} (hworker : (f.sessions.find? worker).isSome)
    (hc : (f.allocate accept now).1 = some c) :
    Regrant f ((f.allocate accept now).2.bindAccount worker c.username now) := by
  rw [allocate_fst] at hc
  obtain ⟨hfree, hflags⟩ := Pool.isInUse_allocate hp hc
  have hsound := hp.allocate accept now
  have hpool := bindAccount_pool (f.allocate accept now).2 worker c.username now
  rw [(sameWork_allocate f accept now).sessions, allocate_pool, displaced_eq] at hpool
  refine .assign worker (some c.username) ?_ (fun w => ?_) (fun u => ?_)
  · rintro u ⟨⟩
    exact hfree
  · have hmod := boundAccount_modifySession f (k := (·.bindAccount c.username)) (by intro; rfl)
      worker w
    rw [boundAccount, grant_sessions]
    refine hmod.trans ?_
    split
    next he =>
      subst he
      obtain ⟨x, hx⟩ := Option.isSome_iff_exists.mp hworker
      rw [hx]
      rfl
    next => rfl
  · rw [hpool]
    cases hb : f.boundAccount worker with
    | none => simp [hflags, eq_comm]
    | some previous =>
      -- The account that is displaced is another one than the account that is granted.
      by_cases hprev : previous = c.username
      · have hfilter : (some previous).filter (· != c.username) = none := by
          simp [Option.filter, hprev]
        rw [hfilter, hflags, hprev]
        by_cases hu : u = c.username
        · simp [hu]
        · simp [hu, Ne.symm hu]
      · have hfilter : (some previous).filter (· != c.username) = some previous := by
          simp [Option.filter, hprev]
        rw [hfilter, Pool.isInUse_release hsound, hflags]
        by_cases hu : u = c.username
        · subst hu
          simp [Ne.symm hprev]
        · simp [hu, eq_comm]

theorem Move.regrant (h : Move now f g) (hd : f.sessions.Distinct) (hp : f.pool.Sound) :
    Regrant f g := by
  cases h with
  | quiet h =>
    cases h with
    | note hn => exact .keep (fun w => by rw [boundAccount, hn.sessions]; rfl) hn.flags.isInUse
    | touch worker host => exact .keep (boundAccount_touch f worker host now) fun _ => rfl
    | settle harea hnone =>
      exact .keep (boundAccount_modifySession_same f (by intro; rfl) (by intro; rfl) _) fun _ => rfl
    | recut area =>
      obtain ⟨k, hk, hsame⟩ := map_recalculate hd area now
      exact .keep (boundAccount_map hk (fun x => (hsame x).1.id) fun x => (hsame x).1.username)
        fun u => by rw [recalculate_pool]
    | advance worker =>
      exact .keep (boundAccount_modifySession_same f (by intro; rfl) (by intro; rfl) _) fun _ => rfl
    | renew ha hb => exact .keep (fun _ => rfl) fun _ => rfl
    | grant hworker hc => exact regrant_grant hp hworker hc
  | count worker kinds =>
    exact .keep (boundAccount_modifySession_same f (by intro; rfl) (by intro; rfl) _) fun _ => rfl
  | trip worker named =>
    refine .assign worker none (by simp) (boundAccount_tripAccount f worker named now) fun u => ?_
    simp [isInUse_tripAccount hp]

theorem Move.rebinds (h : Move now f g) (hd : f.sessions.Distinct) (hp : f.pool.Sound) :
    Rebinds f g :=
  ⟨h.distinct hd, h.poolSound hp, h.usernames, h.regrant hd hp⟩

theorem rebinds_forget (hd : f.sessions.Distinct) (hp : f.pool.Sound) {x : Session}
    (hx : x ∈ f.sessions.list) (now : Instant) : Rebinds f (f.forget x now) := by
  have hwork := sameWork_forget f x now
  have hb := boundAccount_of_mem hd hx
  have hpool : (f.forget x now).pool =
      match x.username with
      | some u => f.pool.release u now
      | none => f.pool := by
    unfold Fleet.forget
    cases x.username <;> rfl
  constructor
  case sessions =>
    rw [hwork.sessions]
    exact hd.remove _
  case pool =>
    rw [hpool]
    split
    · exact hp.release _ _
    · exact hp
  case usernames =>
    rw [hpool]
    split
    · rw [Pool.usernames_release]
    · rfl
  case regrant =>
    refine .assign x.id none (by simp) (fun w => ?_) fun u => ?_
    · rw [boundAccount, hwork.sessions, Sessions.find?_remove]
      split <;> rfl
    · rw [hpool, hb]
      cases x.username with
      | none => simp
      | some v => simp [Pool.isInUse_release hp, eq_comm]

/-! ### Sequences of changes -/

open Relation

omit [Store σ] in
theorem rebinds_keep {I : Fleet σ → Prop} (hI : ∀ {f g : Fleet σ}, I f → Rebinds f g → I g)
    (h : ReflTransGen Rebinds f g) (hf : I f) : I g := by
  induction h with
  | refl => exact hf
  | tail _ hlast ih => exact hI ih hlast

theorem Moves.rebinds (h : Moves now f g) (hd : f.sessions.Distinct) (hp : f.pool.Sound) :
    ReflTransGen Rebinds f g := by
  have hall := h.keep
    (P := fun g => g.sessions.Distinct ∧ g.pool.Sound ∧ ReflTransGen Rebinds f g)
    (fun hf hm => ⟨hm.distinct hf.1, hm.poolSound hf.2.1,
      hf.2.2.tail (hm.rebinds hf.1 hf.2.1)⟩) ⟨hd, hp, .refl⟩
  exact hall.2.2

omit [Store σ] in
theorem rebinds_reconcile (hd : f.sessions.Distinct) (hp : f.pool.Sound)
    (rows : List AreaRecord) : Rebinds f (f.reconcile rows) := by
  have hpool := (reconcile_keeps f rows).2.1
  refine ⟨distinct_reconcile hd rows, by rw [hpool]; exact hp, by rw [hpool], ?_⟩
  exact .keep (boundAccount_map (list_reconcile hd rows) (id_unbound _) (username_unbound _))
    fun u => by rw [hpool]

/-- An event changes bindings and flags step by step, or it loads its rows into the pool. -/
theorem rebinds_after (hd : f.sessions.Distinct) (hp : f.pool.Sound) (e : Event σ) :
    ReflTransGen Rebinds f (f.after e) ∨
      (f.after e).sessions = f.sessions ∧ (f.after e).pool = f.pool.load (f.loadedRows e) := by
  have h := f.outcome e
  generalize f.after e = g at h ⊢
  cases h with
  | moves now hm => exact .inl (hm.rebinds hd hp)
  | @logout worker s services now hs =>
    have hforget := rebinds_forget hd hp (Sessions.mem_of_find? hs) now
    exact .inl (.head hforget
      ((quietMoves_logout hs now).moves.rebinds hforget.sessions hforget.pool))
  | load hwork hpool => exact .inr ⟨hwork.sessions, hpool⟩
  | startup => exact .inr ⟨(bootstrap_keeps f _).1.sessions, (bootstrap_keeps f _).2⟩
  | @reload rows services now hrows =>
    have hreconcile := rebinds_reconcile hd hp rows
    rw [hrows]
    exact .inl (.head hreconcile
      ((quietMoves_recalculateAll _ _ now).moves.rebinds hreconcile.sessions hreconcile.pool))

/-! ### Sound pools in every state -/

theorem poolSound_after (hp : f.pool.Sound) (e : Event σ) : (f.after e).pool.Sound := by
  have h := f.outcome e
  generalize f.after e = g at h ⊢
  cases h with
  | moves now hm => exact hm.keep (P := fun g => g.pool.Sound) (fun hp hm => hm.poolSound hp) hp
  | @logout worker s services now hs =>
    refine (quietMoves_logout hs now).moves.keep (P := fun g => g.pool.Sound)
      (fun hp hm => hm.poolSound hp) ?_
    unfold forget
    dsimp only
    split
    · exact hp.release _ _
    · exact hp
  | load hwork hpool =>
    rw [hpool]
    exact hp.load _
  | startup =>
    rw [(bootstrap_keeps f _).2]
    exact hp.load _
  | @reload rows services now hrows =>
    rw [hrows]
    refine (quietMoves_recalculateAll _ _ now).moves.keep (P := fun g => g.pool.Sound)
      (fun hp hm => hm.poolSound hp) ?_
    rw [(reconcile_keeps f rows).2.1]
    exact hp

theorem poolSound_run (hp : f.pool.Sound) (events : List (Event σ)) :
    (f.run events).pool.Sound := by
  induction events generalizing f with
  | nil => exact hp
  | cons e events ih => exact ih (poolSound_after hp e)

end

/-! ### Matched bindings -/

/-- The flags that are up are those of the bound accounts, and no account is bound twice. -/
structure Matched (f : Fleet σ) : Prop where
  sessions : f.sessions.Distinct
  pool : f.pool.Sound
  inUse : ∀ u, f.pool.isInUse u ↔ ∃ worker, f.boundAccount worker = some u
  unique : ∀ {worker other u}, f.boundAccount worker = some u → f.boundAccount other = some u →
    worker = other

namespace Matched

variable {f g : Fleet σ}

theorem congr (h : f.Matched) (hd : g.sessions.Distinct) (hp : g.pool.Sound)
    (hb : ∀ w, g.boundAccount w = f.boundAccount w)
    (hu : ∀ u, g.pool.isInUse u = f.pool.isInUse u) : g.Matched := by
  refine ⟨hd, hp, fun u => ?_, fun h1 h2 => ?_⟩
  · simp only [hb, hu]
    exact h.inUse u
  · rw [hb] at h1 h2
    exact h.unique h1 h2

theorem not_bound (h : f.Matched) {u : String} (hu : f.pool.isInUse u = false) (worker : String) :
    f.boundAccount worker ≠ some u := fun hb => by
  rw [(h.inUse u).mpr ⟨worker, hb⟩] at hu
  cases hu

theorem rebinds (h : f.Matched) (hfg : Rebinds f g) : g.Matched := by
  cases hfg.regrant with
  | keep hb hu => exact h.congr hfg.sessions hfg.pool hb hu
  | assign worker c hfree hb hu =>
    have hnew {u : String} (hc : c = some u) (w : String) : f.boundAccount w ≠ some u :=
      h.not_bound (hfree u hc) w
    refine ⟨hfg.sessions, hfg.pool, fun u => ?_, fun {w w' u} h1 h2 => ?_⟩
    · simp only [hu, hb, Bool.or_eq_true, Bool.and_eq_true, decide_eq_true_eq]
      constructor
      · rintro (hc | ⟨hne, hin⟩)
        · exact ⟨worker, by rw [if_pos rfl, hc]⟩
        · obtain ⟨w, hw⟩ := (h.inUse u).mp hin
          have hww : w ≠ worker := fun he => hne (he ▸ hw)
          exact ⟨w, by rw [if_neg hww]; exact hw⟩
      · rintro ⟨w, hw⟩
        split at hw
        next => exact .inl hw
        next hww => exact .inr ⟨fun hwu => hww (h.unique hw hwu), (h.inUse u).mpr ⟨w, hw⟩⟩
    · rw [hb] at h1 h2
      split at h1 <;> split at h2
      next hw hw' => rw [hw, hw']
      next => exact absurd h2 (hnew h1 w')
      next => exact absurd h1 (hnew h2 w)
      next => exact h.unique h1 h2

end Matched

end ScanFleet.Fleet
