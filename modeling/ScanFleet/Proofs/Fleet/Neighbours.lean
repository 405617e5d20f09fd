import Mathlib.Data.Set.Insert
import ScanFleet.Proofs.Fleet.Evenness
import ScanFleet.Proofs.Fleet.Refusals
import ScanFleet.Proofs.Pool.Loans

/-! Workers beside each other.  What a worker asks for is made of changes of its own session, of
cuts of the route of its own area, and of changes of the account that it has or gets.  So every
other session keeps all but its walk, and the walk too when it is in another area, and every other
account is lent as it was. -/

namespace ScanFleet

/-- What a session keeps while routes are cut in `areas` alone: all but its walk, which stays too if
the session is bound to none of them. -/
structure Session.Spared (areas : Set Int) (x y : Session) : Prop where
  id : y.id = x.id
  seq : y.seq = x.seq
  area : y.area = x.area
  username : y.username = x.username
  host : y.host = x.host
  lastSeen : y.lastSeen = x.lastSeen
  usage : y.usage = x.usage
  walk : y.walk = x.walk ∨ ∃ a ∈ areas, x.area = some a

namespace Session.Spared

variable {areas : Set Int} {x y z : Session}

theorem refl (x : Session) : Spared areas x x := ⟨rfl, rfl, rfl, rfl, rfl, rfl, rfl, .inl rfl⟩

theorem trans (h : Spared areas x y) (h' : Spared areas y z) : Spared areas x z where
  id := h'.id.trans h.id
  seq := h'.seq.trans h.seq
  area := h'.area.trans h.area
  username := h'.username.trans h.username
  host := h'.host.trans h.host
  lastSeen := h'.lastSeen.trans h.lastSeen
  usage := h'.usage.trans h.usage
  walk := by
    rcases h.walk with hwalk | hwalk
    · rcases h'.walk with hwalk' | ⟨a, ha, harea⟩
      · exact .inl (hwalk'.trans hwalk)
      · exact .inr ⟨a, ha, h.area.symm.trans harea⟩
    · exact .inr hwalk

/-- A cut of the route of its area leaves a session all but its walk. -/
theorem recut {a : Int} (ha : a ∈ areas) (hx : x.area = some a) (live : List String) (steps : Nat) :
    Spared areas x (x.recut live steps) := by
  unfold Session.recut
  split <;> exact ⟨rfl, rfl, rfl, rfl, rfl, rfl, rfl, .inr ⟨a, ha, hx⟩⟩

end Session.Spared

/-- The worker that asks for an operation, if it is one that workers ask for. -/
def Operation.worker? : Operation → Option String
  | .initWorker worker _ | .heartbeat worker _ | .assignAccount worker _ | .nextJob worker _ _
  | .tutorialDone worker | .logout worker => some worker
  | .recordRaw report _ => some report.worker
  | _ => none

namespace Fleet

variable {σ : Type}

/-- From `f` to `g` the sessions of all workers but one are spared, with routes cut in `areas`
alone, and all accounts but `accounts` are lent as before. -/
structure Spares (worker : String) (areas : Set Int) (accounts : Set String) (f g : Fleet σ) :
    Prop where
  sessions : ∀ other, other ≠ worker →
    Option.Rel (Session.Spared areas) (f.sessions.find? other) (g.sessions.find? other)
  loans : ∀ u, u ∉ accounts → g.pool.loan? u = f.pool.loan? u

namespace Spares

variable {worker : String} {areas : Set Int} {accounts : Set String} {f g k : Fleet σ}

theorem trans (h : Spares worker areas accounts f g) (h' : Spares worker areas accounts g k) :
    Spares worker areas accounts f k := by
  refine ⟨fun other hne => ?_, fun u hu => (h'.loans u hu).trans (h.loans u hu)⟩
  have hfg := h.sessions other hne
  have hgk := h'.sessions other hne
  generalize f.sessions.find? other = x at hfg ⊢
  generalize g.sessions.find? other = y at hfg hgk
  cases hfg with
  | none => exact hgk
  | some hxy =>
    generalize k.sessions.find? other = z at hgk ⊢
    cases hgk with
    | some hyz => exact .some (hxy.trans hyz)

/-- No session is changed but the worker's. -/
theorem of_find? (hsessions : ∀ other, other ≠ worker →
      g.sessions.find? other = f.sessions.find? other)
    (hloans : ∀ u, u ∉ accounts → g.pool.loan? u = f.pool.loan? u) :
    Spares worker areas accounts f g := by
  refine ⟨fun other hne => ?_, hloans⟩
  rw [hsessions other hne]
  cases f.sessions.find? other with
  | none => exact .none
  | some x => exact .some (.refl x)

theorem of_sessions_eq (hsessions : g.sessions = f.sessions)
    (hloans : ∀ u, u ∉ accounts → g.pool.loan? u = f.pool.loan? u) :
    Spares worker areas accounts f g :=
  of_find? (fun _ _ => by rw [hsessions]) hloans

theorem of_eq (hsessions : g.sessions = f.sessions) (hpool : g.pool = f.pool) :
    Spares worker areas accounts f g :=
  of_sessions_eq hsessions fun _ _ => by rw [hpool]

theorem refl (f : Fleet σ) : Spares worker areas accounts f f := of_eq rfl rfl

theorem of_map {k : Session → Session} (hlist : g.sessions.list = f.sessions.list.map k)
    (hk : ∀ x, Session.Spared areas x (k x)) (hpool : g.pool = f.pool) :
    Spares worker areas accounts f g := by
  refine ⟨fun other _ => ?_, fun _ _ => by rw [hpool]⟩
  have hfind : g.sessions.find? other = (f.sessions.find? other).map k := by
    rw [Sessions.find?, hlist, Keyed.find?_map (k := fun x : Session => x.id) fun x => (hk x).id,
      Sessions.find?]
  rw [hfind]
  cases f.sessions.find? other with
  | none => exact .none
  | some x => exact .some (hk x)

end Spares

variable {worker : String} {host : Option String} {now : Instant} {areas : Set Int}
  {accounts : Set String} {f : Fleet σ}

/-! ### Changes of sessions -/

theorem spares_touch (f : Fleet σ) (host : Option String) (now : Instant) :
    Spares worker areas accounts f (f.touch worker host now) :=
  .of_find? (fun other hne => by rw [touch, Sessions.find?_touch_eq, if_neg hne]) fun _ _ => rfl

theorem spares_modifySession (f : Fleet σ) {k : Session → Session} (hk : ∀ x, (k x).id = x.id) :
    Spares worker areas accounts f (f.modifySession worker k) :=
  .of_find? (fun other hne => by rw [modifySession, Sessions.find?_modify hk, if_neg hne])
    fun _ _ => rfl

theorem spares_recalculate (hd : f.sessions.Distinct) {area : Int}
    (harea : area ∈ areas) (now : Instant) :
    Spares worker areas accounts f (f.recalculate area now).2 := by
  by_cases h : f.route? area = none ∨ f.liveIds area now = []
  · exact .of_eq (sessions_recalculate_eq_self hd h) (recalculate_pool f area now)
  · rw [not_or] at h
    obtain ⟨r, hr⟩ := Option.ne_none_iff_exists'.mp h.1
    refine .of_map (list_recalculate hd hr h.2) (fun x => ?_) (recalculate_pool f area now)
    split
    next hx => exact .recut harea hx _ _
    next => exact .refl x

/-! ### Bindings -/

theorem areaOf_recalculate (hd : f.sessions.Distinct) (area : Int) (now : Instant)
    (worker : String) : (f.recalculate area now).2.areaOf worker = f.areaOf worker := by
  obtain ⟨k, hk, hsame⟩ := map_recalculate hd area now
  rw [areaOf, Sessions.find?, hk,
    Keyed.find?_map (k := fun x : Session => x.id) fun x => (hsame x).1.id, Option.bind_map]
  exact congrArg _ (funext fun x => (hsame x).1.area)

theorem boundAccount_recalculate (hd : f.sessions.Distinct) (area : Int)
    (now : Instant) (worker : String) :
    (f.recalculate area now).2.boundAccount worker = f.boundAccount worker := by
  obtain ⟨k, hk, hsame⟩ := map_recalculate hd area now
  exact boundAccount_map hk (fun x => (hsame x).1.id) (fun x => (hsame x).1.username) worker

/-- A worker that was seen and has an area had it before. -/
theorem areaOf_of_boundArea {a : Area} (h : (f.touch worker host now).boundArea worker = .ok a) :
    f.areaOf worker = some a.id := by
  obtain ⟨s, hs, harea, -⟩ := find?_boundArea h
  rw [← areaOf_touch f worker host now, areaOf, hs, Option.bind_some, harea]

/-! ### Jobs in an area -/

theorem spares_checkQuests (f : Fleet σ) (services : Services) (a : Area) (now : Instant) :
    Spares worker areas accounts f (f.checkQuests services a now) := by
  refine .of_eq (sessions_checkQuests f services a now) ?_
  unfold checkQuests startQuesting
  dsimp only
  split
  · split <;> rfl
  · rfl

theorem spares_nextQuestStep (f : Fleet σ) (area : Int) :
    Spares worker areas accounts f (f.nextQuestStep area).2 := by
  refine .of_eq (sessions_nextQuestStep f area) ?_
  unfold nextQuestStep
  split <;> rfl

theorem spares_pokemonJob (hd : f.sessions.Distinct) {a : Area} (ha : a.id ∈ areas)
    (now : Instant) : Spares worker areas accounts f (f.pokemonJob worker a now).2 := by
  have hcut : Spares worker areas accounts f
      (if f.hasWalk worker then f else (f.recalculate a.id now).2) := by
    split
    · exact .refl f
    · exact spares_recalculate hd ha now
  unfold pokemonJob
  extract_lets g
  split
  · exact hcut.trans (spares_modifySession g (k := (·.advance)) fun _ => rfl)
  · exact hcut

theorem spares_areaJob (hd : f.sessions.Distinct) (services : Services) {a : Area}
    (ha : a.id ∈ areas) (now : Instant) :
    Spares worker areas accounts f (f.areaJob services worker a now).2 := by
  have hgate : Spares worker areas accounts f (f.checkQuests services a now) :=
    spares_checkQuests f services a now
  have hstep := hgate.trans (spares_nextQuestStep _ a.id)
  have hdistinct : ((f.checkQuests services a now).nextQuestStep a.id).2.sessions.Distinct := by
    rw [sessions_nextQuestStep, sessions_checkQuests]
    exact hd
  have hid : (((f.checkQuests services a now).areas.find? a.id).getD a).id = a.id := by
    cases hb : (f.checkQuests services a now).areas.find? a.id with
    | none => rfl
    | some b => exact Areas.id_of_find? hb
  unfold areaJob
  dsimp only
  split
  next hn => rwa [hn] at hstep
  next hn =>
    rw [hn] at hstep hdistinct
    refine hstep.trans (spares_pokemonJob hdistinct ?_ now)
    rwa [hid]

theorem spares_nextJob (hd : f.sessions.Distinct) (services : Services)
    (username : Option String) (hareas : ∀ a, f.areaOf worker = some a → a ∈ areas) :
    Spares worker areas accounts f (f.nextJob services worker username host now).2 := by
  have htouch : Spares worker areas accounts f (f.touch worker host now) := spares_touch f host now
  unfold nextJob
  dsimp only
  split
  · exact htouch
  · split
    · exact htouch
    · exact htouch
    · split
      · exact htouch
      next a ha =>
        have harea : a.id ∈ areas := hareas a.id (areaOf_of_boundArea ha)
        exact htouch.trans (spares_areaJob (hd.touch worker host now) services harea now)

/-! ### Changes of accounts -/

variable [Store σ]

theorem spares_persist (f : Fleet σ) (w : Write) :
    Spares worker areas accounts f (f.persist w) := .of_eq rfl rfl

theorem spares_persistDevice (f : Fleet σ) (now : Instant) :
    Spares worker areas accounts f (f.persistDevice worker now) := by
  unfold persistDevice
  split
  · exact .refl f
  · exact spares_persist _ _

theorem spares_release (f : Fleet σ) (hp : f.pool.Sound) {u : String} (hu : u ∈ accounts)
    (now : Instant) : Spares worker areas accounts f (f.release u now) :=
  .of_sessions_eq rfl fun _ hv => Pool.loan?_release hp (ne_of_mem_of_not_mem hu hv).symm now

theorem spares_modifyAccount (f : Fleet σ) (hp : f.pool.Sound) (u : String)
    {k : Account → Account} (hk : ∀ a, (k a).username = a.username)
    (hselected : ∀ a, (k a).lastSelected = a.lastSelected)
    (hreleased : ∀ a, (k a).lastReleased = a.lastReleased) (w : Write) :
    Spares worker areas accounts f ({ f with pool := f.pool.modifyAccount u k }.persist w) :=
  .of_sessions_eq rfl fun v _ => Pool.loan?_modifyAccount hp hk hselected hreleased u v

theorem spares_setLevel (f : Fleet σ) (hp : f.pool.Sound) (u : String) (level : Int) :
    Spares worker areas accounts f (f.setLevel u level) := by
  unfold setLevel
  split
  · exact .refl f
  · split
    · exact .refl f
    · exact spares_modifyAccount f hp u (by intro; rfl) (by intro; rfl) (by intro; rfl) _

theorem spares_markTutorialDone (f : Fleet σ) (hp : f.pool.Sound) (u : String) :
    Spares worker areas accounts f (f.markTutorialDone u) := by
  unfold markTutorialDone
  split
  · exact .refl f
  · exact spares_modifyAccount f hp u (by intro; rfl) (by intro; rfl) (by intro; rfl) _

theorem spares_markDisabled (f : Fleet σ) (hp : f.pool.Sound) (u : String) (now : Instant) :
    Spares worker areas accounts f (f.markDisabled u now) :=
  spares_modifyAccount f hp u (by intro; rfl) (by intro; rfl) (by intro; rfl) _

theorem boundAccount_grant
    (hworker : (f.sessions.find? worker).isSome) (accept : Account → Bool) (username : String)
    (now : Instant) :
    ((f.allocate accept now).2.bindAccount worker username now).boundAccount worker =
      some username := by
  obtain ⟨x, hx⟩ := Option.isSome_iff_exists.mp hworker
  rw [boundAccount, grant_sessions, Sessions.find?_modify (f := (·.bindAccount username))
    (fun _ => rfl), if_pos rfl, hx]
  rfl

theorem distinct_grant (hd : f.sessions.Distinct) (accept : Account → Bool)
    (worker username : String) (now : Instant) :
    ((f.allocate accept now).2.bindAccount worker username now).sessions.Distinct := by
  rw [grant_sessions]
  exact hd.modify (f := (·.bindAccount username)) (fun _ => rfl) worker

/-! ### Operations -/

theorem spares_heartbeat : Spares worker areas accounts f (f.heartbeat worker host now) :=
  (spares_touch f host now).trans (spares_persistDevice _ now)

theorem spares_initWorker (hd : f.sessions.Distinct)
    (hareas : ∀ a, (f.initWorker worker host now).2.areaOf worker = some a → a ∈ areas) :
    Spares worker areas accounts f (f.initWorker worker host now).2 := by
  have htouch : Spares worker areas accounts f (f.touch worker host now) := spares_touch f host now
  rcases f.initWorker_cases worker host now with ⟨_, hr⟩ | ⟨_, hr⟩ | ⟨area, -, -, hr⟩ <;>
    rw [hr] at hareas ⊢
  · exact htouch
  · exact htouch.trans (spares_persistDevice _ now)
  · have hseen := f.sessions.isSome_find?_touch worker host now
    have hbound : ((f.touch worker host now).modifySession worker
        (·.bindArea area)).sessions.Distinct :=
      (hd.touch worker host now).modify (f := (·.bindArea area)) (fun _ => rfl) worker
    have harea : area ∈ areas := by
      refine hareas area ?_
      rw [areaOf, (notes_persistDevice _ worker now).sessions]
      refine (areaOf_recalculate hbound area now worker).trans ?_
      rw [areaOf_bindArea hseen, if_pos rfl]
    exact ((htouch.trans (spares_modifySession _ (k := (·.bindArea area)) (fun _ => rfl))).trans
      (spares_recalculate hbound harea now)).trans (spares_persistDevice _ now)

/-- A worker that is granted an account gives up the one that it had. -/
theorem spares_grant (hp : f.pool.Sound) {accept : Account → Bool} {c : Credentials}
    (hc : (f.allocate accept now).1 = some c) (hgot : c.username ∈ accounts)
    (hheld : ∀ u, f.boundAccount worker = some u → u ∈ accounts) :
    Spares worker areas accounts f
      ((f.allocate accept now).2.bindAccount worker c.username now) := by
  rw [allocate_fst] at hc
  refine .of_find? (fun other hne => ?_) fun u hu => ?_
  · rw [grant_sessions, Sessions.find?_modify (f := (·.bindAccount c.username)) (fun _ => rfl),
      if_neg hne]
  · have hselected := Pool.loan?_allocate hp hc (ne_of_mem_of_not_mem hgot hu).symm
    rw [bindAccount_pool, (sameWork_allocate f accept now).sessions, allocate_pool, displaced_eq]
    split
    next previous hprevious =>
      have hmem := hheld previous (Option.filter_eq_some_iff.mp hprevious).1
      rw [Pool.loan?_release (hp.allocate accept now) (ne_of_mem_of_not_mem hmem hu).symm,
        hselected]
    next => exact hselected

theorem spares_assignAccount (hd : f.sessions.Distinct) (hp : f.pool.Sound)
    (hareas : ∀ a, f.areaOf worker = some a → a ∈ areas)
    (hheld : ∀ u, f.boundAccount worker = some u → u ∈ accounts)
    (hgot : ∀ u, (f.assignAccount worker host now).2.boundAccount worker = some u → u ∈ accounts) :
    Spares worker areas accounts f (f.assignAccount worker host now).2 := by
  have htouch : Spares worker areas accounts f (f.touch worker host now) := spares_touch f host now
  rcases f.assignAccount_cases worker host now with ⟨_, hr⟩ | ⟨a, c, ha, hc, hr⟩ <;>
    rw [hr] at hgot ⊢
  · exact htouch
  · have hseen := f.sessions.isSome_find?_touch worker host now
    have hbound := distinct_grant (f := f.touch worker host now) (hd.touch worker host now)
      (f.touch worker host now).accepts worker c.username now
    have harea : a.id ∈ areas := hareas a.id (areaOf_of_boundArea ha)
    have hname : c.username ∈ accounts := by
      refine hgot c.username ?_
      rw [boundAccount, (notes_persistDevice _ worker now).sessions]
      exact (boundAccount_recalculate hbound a.id now worker).trans
        (boundAccount_grant hseen _ c.username now)
    have hgrant : Spares worker areas accounts (f.touch worker host now) _ :=
      spares_grant (f := f.touch worker host now) hp hc hname fun u hu =>
        hheld u (by rwa [← boundAccount_touch f worker host now])
    exact ((htouch.trans hgrant).trans (spares_recalculate hbound harea now)).trans
      (spares_persistDevice _ now)

theorem spares_tutorialDone (hp : f.pool.Sound) :
    Spares worker areas accounts f (f.tutorialDone worker).2 := by
  unfold tutorialDone
  split
  · exact .refl f
  · split
    · exact spares_markTutorialDone f hp _
    · exact .refl f

/-! ### Reports and logouts -/

theorem spares_tripAccount (f : Fleet σ) (hp : f.pool.Sound)
    (hheld : ∀ u, f.boundAccount worker = some u → u ∈ accounts) (named : Option String) :
    Spares worker areas accounts f (f.tripAccount worker named now).2 := by
  have htrip : Spares worker areas accounts f (f.modifySession worker tripped) :=
    spares_modifySession f (by intro; rfl)
  have hsound (u : String) : (f.pool.markDisabled u now).Sound :=
    (Pool.sameFlags_modifyAccount (by intro; rfl) f.pool u).sound hp
  unfold tripAccount
  dsimp only
  split
  next u hu =>
    exact (htrip.trans (spares_markDisabled (f.modifySession worker tripped) hp u now)).trans
      (spares_release ((f.modifySession worker tripped).markDisabled u now) (hsound u)
        (hheld u hu) now)
  next u _ => exact htrip.trans (spares_markDisabled (f.modifySession worker tripped) hp u now)
  next => exact htrip

theorem spares_counted (hp : f.pool.Sound) (report : RawReport) :
    Spares report.worker areas accounts f (f.counted host now report) := by
  have htouch : Spares report.worker areas accounts f (f.touch report.worker host now) :=
    spares_touch f host now
  have hheard : Spares report.worker areas accounts f (f.heard host now report) := by
    unfold heard
    dsimp only
    split
    · split
      · exact htouch.trans (spares_setLevel (f.touch report.worker host now) hp _ _)
      · exact htouch
    · exact htouch
  exact hheard.trans (spares_modifySession _ (by intro; rfl))

theorem spares_recordRaw (hp : f.pool.Sound) (report : RawReport)
    (hheld : ∀ u, f.boundAccount report.worker = some u → u ∈ accounts) :
    Spares report.worker areas accounts f (f.recordRaw report host now).2 := by
  have hcounted : Spares report.worker areas accounts f (f.counted host now report) :=
    spares_counted hp report
  rw [recordRaw_eq]
  split
  · have hsound : (f.counted host now report).pool.Sound :=
      (heard_pool hp host now report).2.sound hp
    refine hcounted.trans (spares_tripAccount _ hsound (fun u hu => hheld u ?_) _)
    rwa [boundAccount_counted] at hu
  · exact hcounted

theorem spares_forget {s : Session} (hp : f.pool.Sound)
    (hheld : ∀ u, s.username = some u → u ∈ accounts) :
    Spares s.id areas accounts f (f.forget s now) := by
  have hremove : Spares s.id areas accounts f { f with sessions := f.sessions.remove s.id } :=
    .of_find? (fun other hne => by rw [Sessions.find?_remove, if_neg hne]) fun _ _ => rfl
  unfold forget
  dsimp only
  split
  next u hu =>
    exact hremove.trans
      (spares_release { f with sessions := f.sessions.remove s.id } hp (hheld u hu) now)
  next => exact hremove

theorem spares_logout (hd : f.sessions.Distinct) (hp : f.pool.Sound)
    (hareas : ∀ a, f.areaOf worker = some a → a ∈ areas)
    (hheld : ∀ u, f.boundAccount worker = some u → u ∈ accounts) :
    Spares worker areas accounts f (f.logout worker now).2 := by
  cases hs : f.sessions.find? worker with
  | none =>
    unfold logout
    rw [hs]
    dsimp only
    split
    · exact .refl f
    · exact .refl f
    · exact spares_persist _ _
  | some s =>
    obtain rfl := Sessions.id_of_find? hs
    have hforget : Spares s.id areas accounts f (f.forget s now) :=
      spares_forget hp fun u hu => hheld u (by rw [boundAccount, hs, Option.bind_some, hu])
    have hdistinct : (f.forget s now).sessions.Distinct := by
      rw [(sameWork_forget f s now).sessions]
      exact hd.remove s.id
    rw [logout_snd hs]
    refine Spares.trans ?_ (spares_persist _ _)
    split
    next area harea =>
      have hmem := hareas area (by rw [areaOf, hs, Option.bind_some, harea])
      exact hforget.trans (spares_recalculate hdistinct hmem now)
    next => exact hforget

/-! ### Runs -/

/-- The areas that a worker is bound to in one of two fleets. -/
def areasOf (worker : String) (f g : Fleet σ) : Set Int :=
  {a | f.areaOf worker = some a ∨ g.areaOf worker = some a}

/-- The accounts that a worker is bound to in one of two fleets. -/
def accountsOf (worker : String) (f g : Fleet σ) : Set String :=
  {u | f.boundAccount worker = some u ∨ g.boundAccount worker = some u}

theorem spares_perform (hd : f.sessions.Distinct) (hp : f.pool.Sound) (services : Services)
    (now : Instant) {op : Operation} (h : op.worker? = some worker) :
    Spares worker (areasOf worker f (f.perform services now op))
      (accountsOf worker f (f.perform services now op)) f (f.perform services now op) := by
  have hareas : ∀ a, f.areaOf worker = some a →
      a ∈ areasOf worker f (f.perform services now op) := fun _ ha => .inl ha
  have hheld : ∀ u, f.boundAccount worker = some u →
      u ∈ accountsOf worker f (f.perform services now op) := fun _ hu => .inl hu
  cases op with
  | initWorker _ host =>
    cases h
    exact spares_initWorker hd fun _ ha => .inr ha
  | heartbeat _ host =>
    cases h
    exact spares_heartbeat
  | assignAccount _ host =>
    cases h
    exact spares_assignAccount hd hp hareas hheld fun _ hu => .inr hu
  | nextJob _ username host =>
    cases h
    exact spares_nextJob hd services username hareas
  | tutorialDone =>
    cases h
    exact spares_tutorialDone hp
  | recordRaw report host =>
    cases h
    exact spares_recordRaw hp report hheld
  | logout =>
    cases h
    exact spares_logout hd hp hareas hheld
  | _ => cases h

/-- In every state of a run, what a worker asks for leaves all others alone.  Other sessions keep
all but their walks, and those too unless they are bound to an area of the worker; and all accounts
are lent as before but the one that the worker had and the one that it has now. -/
theorem run_spares (settings : Settings) (store : σ) (events : List (Event σ))
    (services : Services) (now : Instant) {op : Operation} {worker : String}
    (h : op.worker? = some worker) :
    let f := (Fleet.new settings store).run events
    let g := f.perform services now op
    Spares worker (areasOf worker f g) (accountsOf worker f g) f g :=
  spares_perform ((sound_new settings store).run events).distinct
    (poolSound_run Pool.sound_empty events) services now h

/-- Two workers in one area, the first of which has the account. -/
def twoInOneArea : List (Event Tables) :=
  [.perform .bootstrap .none 0, .perform (.initWorker "ada" none) .none 10,
    .perform (.assignAccount "ada" none) .none 20, .perform (.initWorker "bob" none) .none 30]

/-- The second worker leaves.  The first one has the whole route again, and its account is lent to
it as before. -/
theorem run_spares_twoInOneArea :
    (Operation.logout "bob").worker? = some "bob" ∧
    let f := (Fleet.new smallSettings smallStore).run twoInOneArea
    let g := f.perform .none 40 (.logout "bob")
    Spares "bob" (areasOf "bob" f g) (accountsOf "bob" f g) f g ∧
    (f.sessions.find? "ada").bind (·.walk) = some ⟨⟨0, 1⟩, 0⟩ ∧
    (g.sessions.find? "ada").bind (·.walk) = some ⟨⟨0, 3⟩, 0⟩ ∧
    g.pool.loan? "ada" = some ⟨true, some 20, none⟩ := by
  have hworker : (Operation.logout "bob").worker? = some "bob" := rfl
  have hspares := run_spares smallSettings smallStore twoInOneArea .none 40 hworker
  refine ⟨hworker, hspares, by decide +kernel, by decide +kernel, ?_⟩
  refine (hspares.loans "ada" ?_).trans (by decide +kernel)
  rintro (h | h) <;> revert h <;> decide +kernel

end Fleet

end ScanFleet
