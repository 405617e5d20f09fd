import ScanFleet.Proofs.Fleet.Atlas
import ScanFleet.Proofs.Fleet.Credentials
import ScanFleet.Proofs.Pool.InStep

/-! The books of accounts, which are the pool and the rows of a store in memory, and the entries
that operations make in them.  An entry is a mark, a selection or a release.  Every operation that
loads no accounts is a sequence of entries, and what it releases was bound to some worker. -/

namespace ScanFleet

/-- The time that a mark notes. -/
@[simp] def AccountMark.time? : AccountMark → Option Instant
  | .suspended now | .banned now | .disabled now | .warned now => some now
  | _ => none

/-- The mark that a report of trouble makes last. -/
def AccountEvent.mark (now : Instant) : AccountEvent → AccountMark
  | .banned => .banned now
  | .suspended => .suspended now
  | .warned => .warned now
  | .invalidCredentials | .unknownError => .disabled now

/-- The pool, the rows of accounts in the store, and whether the store refuses writes. -/
structure Books where
  pool : Pool
  rows : List Account
  readOnly : Bool

namespace Fleet

open Relation

def books (f : Fleet Tables) : Books := ⟨f.pool, f.store.accounts, f.store.readOnly⟩

/-- `g` has the books and the atlas of `f`. -/
structure SameFiles (f g : Fleet Tables) : Prop where
  books : g.books = f.books
  atlas : g.atlas = f.atlas

theorem SameFiles.refl (f : Fleet Tables) : SameFiles f f := ⟨rfl, rfl⟩

theorem SameFiles.trans {f g h : Fleet Tables} (h1 : SameFiles f g) (h2 : SameFiles g h) :
    SameFiles f h :=
  ⟨h2.books.trans h1.books, h2.atlas.trans h1.atlas⟩

variable {f g : Fleet Tables}

theorem InStep.congr (h : f.InStep) (hb : g.books = f.books) : g.InStep := by
  obtain ⟨hpool, hrows, hro⟩ := Books.mk.inj hb
  exact ⟨by rw [hpool]; exact h.sound, by rw [Tables.Distinct, hrows]; exact h.distinct,
    hro.trans h.writable, by rw [hpool, hrows]; exact h.known⟩

theorem Mirrors.congr (h : f.Mirrors) (hb : g.books = f.books) : g.Mirrors := by
  obtain ⟨hpool, hrows, -⟩ := Books.mk.inj hb
  exact ⟨h.toInStep.congr hb, by rw [hpool, hrows]; exact h.loaded⟩

/-! ### What leaves the books alone -/

section Books

variable (f : Fleet Tables)

theorem books_persist {w : Write} (hw : ∀ t : Tables, (t.apply w).accounts = t.accounts) :
    (f.persist w).books = f.books := by
  unfold books
  rw [store_persist]
  split
  · rfl
  · rw [hw, Tables.readOnly_apply]
    rfl

theorem sameFiles_persistDevice (worker : String) (now : Instant) :
    SameFiles f (f.persistDevice worker now) := by
  unfold persistDevice
  split
  · exact .refl f
  · exact ⟨f.books_persist fun _ => rfl, f.atlas_persist fun _ => rfl⟩

theorem books_recalculate (area : Int) (now : Instant) :
    (f.recalculate area now).2.books = f.books := by
  unfold recalculate
  split <;> rfl

theorem sameFiles_recalculate (area : Int) (now : Instant) :
    SameFiles f (f.recalculate area now).2 :=
  ⟨f.books_recalculate area now, f.atlas_recalculate area now⟩

theorem books_startQuesting (services : Services) (area : Int) :
    (f.startQuesting services area).2.books = f.books := by
  unfold startQuesting
  split <;> rfl

theorem books_areaJob (services : Services) (worker : String) (a : Area) (now : Instant) :
    (f.areaJob services worker a now).2.books = f.books := by
  have hcheck : (f.checkQuests services a now).books = f.books := by
    unfold checkQuests
    dsimp only
    split
    · exact books_startQuesting _ services a.id
    · rfl
  have hstep (g : Fleet Tables) : (g.nextQuestStep a.id).2.books = g.books := by
    unfold nextQuestStep
    split <;> rfl
  have hscan (g : Fleet Tables) (b : Area) : (g.pokemonJob worker b now).2.books = g.books := by
    have hcut : (if g.hasWalk worker then g else (g.recalculate b.id now).2).books = g.books := by
      split
      · rfl
      · exact g.books_recalculate b.id now
    unfold pokemonJob
    extract_lets k
    split
    · exact hcut
    · exact hcut
  have hquest := (hstep (f.checkQuests services a now)).trans hcheck
  unfold areaJob
  dsimp only
  split
  next hn => rwa [hn] at hquest
  next hn =>
    rw [hn] at hquest
    exact (hscan _ _).trans hquest

theorem books_nextJob (services : Services) (worker : String) (username host : Option String)
    (now : Instant) : (f.nextJob services worker username host now).2.books = f.books := by
  unfold nextJob
  dsimp only
  split
  · rfl
  · split
    · rfl
    · rfl
    · split
      · rfl
      · exact books_areaJob (f.touch worker host now) services worker _ now

theorem books_rebuildQuestRoute (services : Services) (area : Int) :
    (f.rebuildQuestRoute services area).2.books = f.books := by
  unfold rebuildQuestRoute
  split
  · rfl
  · dsimp only
    split
    · rfl
    · exact books_persist { f.ask _ with areas := _ } fun _ => rfl

theorem books_rebuildDue (services : Services) (now : Instant) :
    (f.rebuildDue services now).2.books = f.books := by
  refine List.foldlRecOn (motive := fun acc : Nat × Fleet Tables => acc.2.books = f.books) _ _
    rfl ?_
  intro acc hacc area _
  have h := acc.2.books_rebuildQuestRoute services area
  unfold rebuildCounting
  split
  next hr => rwa [hr, hacc] at h
  next hr => rwa [hr, hacc] at h

theorem sameFiles_sweep (now : Instant) : SameFiles f (f.sweep now).2 := by
  have hpurge (g : Fleet Tables) (area : Int) : SameFiles g (g.purgeCaches area now) := by
    refine ⟨?_, g.atlas_purgeCaches area now⟩
    unfold purgeCaches
    split <;> rfl
  refine List.foldlRecOn (motive := fun acc : Nat × Fleet Tables => SameFiles f acc.2) _ _
    (.refl f) ?_
  intro acc hacc area _
  have h := hacc.trans (hpurge acc.2 area)
  unfold sweepArea
  dsimp only
  split
  · exact h.trans (sameFiles_recalculate _ area now)
  · exact h

theorem sameFiles_initWorker (worker : String) (host : Option String) (now : Instant) :
    SameFiles f (f.initWorker worker host now).2 := by
  have htouch : SameFiles f (f.touch worker host now) := ⟨rfl, rfl⟩
  rcases f.initWorker_cases worker host now with ⟨_, hr⟩ | ⟨_, hr⟩ | ⟨area, -, -, hr⟩ <;> rw [hr]
  · exact htouch
  · exact htouch.trans (sameFiles_persistDevice _ worker now)
  · refine htouch.trans (.trans ?_ (sameFiles_persistDevice _ worker now))
    exact ⟨books_recalculate _ _ now, atlas_recalculate _ _ now⟩

theorem books_reloadAreas (now : Instant) : (f.reloadAreas now).2.books = f.books := by
  rw [reloadAreas_snd]
  split
  · rfl
  next rows _ =>
    refine List.foldlRecOn (motive := fun g : Fleet Tables => g.books = f.books) _ _ ?_ ?_
    · exact List.foldlRecOn (motive := fun g : Fleet Tables => g.books = f.books) _ _ rfl
        fun _ hg _ _ => hg
    · exact fun g hg area _ => (g.books_recalculate area now).trans hg

theorem books_registerAll (rows : List AreaRecord) : (f.registerAll rows).2.books = f.books := by
  induction rows generalizing f with
  | nil => rfl
  | cons r rows ih =>
    unfold registerAll
    split
    · rfl
    next d _ => exact ih { f with areas := f.areas.register d }

end Books

/-! ### Entries -/

/-- Whether some worker is bound to an account. -/
def IsHeld (f : Fleet Tables) (u : String) : Prop := ∃ worker, f.boundAccount worker = some u

/-- One entry at the time `now`; what is released is `held`. -/
inductive Entry (now : Instant) (held : String → Prop) : Fleet Tables → Fleet Tables → Prop
  | other {f g : Fleet Tables} (h : SameFiles f g) : Entry now held f g
  | mark (f : Fleet Tables) (u : String) {m : AccountMark} (hm : ∀ t ∈ m.time?, t = now) :
      Entry now held f (f.mark u m)
  | allocate (f : Fleet Tables) (accept : Account → Bool) :
      Entry now held f (f.allocate accept now).2
  | release (f : Fleet Tables) {u : String} (hu : held u) : Entry now held f (f.release u now)

abbrev Entries (now : Instant) (held : String → Prop) : Fleet Tables → Fleet Tables → Prop :=
  ReflTransGen (Entry now held)

variable {now : Instant} {held : String → Prop}

/-- What every entry keeps, a sequence of entries keeps. -/
theorem Entries.keep {P : Fleet Tables → Prop}
    (hP : ∀ {f g : Fleet Tables}, P f → Entry now held f g → P g) (h : Entries now held f g)
    (hf : P f) : P g := by
  induction h with
  | refl => exact hf
  | tail _ hentry ih => exact hP ih hentry

theorem SameFiles.entries (h : SameFiles f g) : Entries now held f g := .single (.other h)

section Operations

variable (f : Fleet Tables)

theorem entries_bindAccount (worker u : String)
    (hheld : ∀ v, f.boundAccount worker = some v → held v) :
    Entries now held f (f.bindAccount worker u now) := by
  have hbind : Entry now held f (f.modifySession worker (·.bindAccount u)) := .other ⟨rfl, rfl⟩
  unfold bindAccount
  dsimp only
  split
  next previous hp =>
    obtain ⟨s, hs, hd⟩ := Option.bind_eq_some_iff.mp hp
    have hprev : s.username = some previous := (Option.filter_eq_some_iff.mp hd).1
    refine .tail (.single hbind) (.release _ (hheld previous ?_))
    rw [boundAccount, hs, Option.bind_some, hprev]
  next => exact .single hbind

theorem entries_assignAccount (worker : String) (host : Option String) :
    Entries now f.IsHeld f (f.assignAccount worker host now).2 := by
  have htouch : Entry now f.IsHeld f (f.touch worker host now) := .other ⟨rfl, rfl⟩
  rcases f.assignAccount_cases worker host now with ⟨_, hr⟩ | ⟨a, c, -, -, hr⟩ <;> rw [hr]
  · exact .single htouch
  · have hselect : Entry now f.IsHeld (f.touch worker host now) _ :=
      .allocate _ (f.touch worker host now).accepts
    have hwork := sameWork_allocate (f.touch worker host now) (f.touch worker host now).accepts now
    generalize ((f.touch worker host now).allocate (f.touch worker host now).accepts now).2 = g
      at hselect hwork ⊢
    -- What the worker gives up was bound before: neither a touch nor a selection binds.
    have hbind : Entries now f.IsHeld g (g.bindAccount worker c.username now) := by
      refine g.entries_bindAccount worker c.username fun v hv => ⟨worker, ?_⟩
      rwa [boundAccount, hwork.sessions, ← boundAccount, boundAccount_touch] at hv
    exact (((ReflTransGen.single htouch).tail hselect).trans hbind).tail
      (.other ((sameFiles_recalculate _ _ now).trans (sameFiles_persistDevice _ worker now)))

theorem time_mark (event : AccountEvent) : ∀ t ∈ (event.mark now).time?, t = now := by
  cases event <;> simp [AccountEvent.mark]

theorem reportAccount_of_exists {u : String} (hu : f.pool.exists? u) (event : AccountEvent) :
    ∃ g, Entries now held f g ∧ (f.reportAccount u event now).2 = g.mark u (event.mark now) := by
  unfold reportAccount
  rw [if_pos hu]
  cases event with
  | invalidCredentials =>
    exact ⟨f.markInvalid u, .single (.mark f u (m := .invalid) (by simp)), rfl⟩
  | banned | suspended | warned | unknownError => exact ⟨f, .refl, rfl⟩

theorem entries_reportAccount (u : String) (event : AccountEvent) :
    Entries now held f (f.reportAccount u event now).2 := by
  by_cases hu : f.pool.exists? u
  · obtain ⟨g, hg, h⟩ : ∃ g, Entries now held f g ∧ _ := f.reportAccount_of_exists hu event
    rw [h]
    exact hg.tail (.mark g u (time_mark event))
  · unfold reportAccount
    rw [if_neg hu]

theorem entries_tutorialDone (worker : String) :
    Entries now held f (f.tutorialDone worker).2 := by
  unfold tutorialDone
  split
  · exact .refl
  · split
    · exact .single (.mark f _ (m := .tutorialDone) (by simp))
    · exact .refl

/-- An account is disabled, and released if it was bound, when there is one to be taken out of
use. -/
theorem tripAccount_cases (worker : String) (named : Option String)
    (hheld : ∀ v, f.boundAccount worker = some v → held v) :
    ∃ g, Entries now held f g ∧ (f.tripAccount worker named now = (none, g) ∨
      ∃ u, (f.tripAccount worker named now).1 = some u ∧
        Entries now held (g.mark u (.disabled now)) (f.tripAccount worker named now).2) := by
  have hreset (k : Session → Session) : Entries now held f (f.modifySession worker k) :=
    SameFiles.entries ⟨rfl, rfl⟩
  unfold tripAccount
  dsimp only
  split
  next u hu => exact ⟨_, hreset _, .inr ⟨u, rfl, .single (.release _ (hheld u hu))⟩⟩
  next u _ => exact ⟨_, hreset _, .inr ⟨u, rfl, .refl⟩⟩
  next => exact ⟨_, hreset _, .inl rfl⟩

theorem entries_tripAccount (worker : String) (named : Option String)
    (hheld : ∀ v, f.boundAccount worker = some v → held v) :
    Entries now held f (f.tripAccount worker named now).2 := by
  obtain ⟨g, hg, h | ⟨u, -, hrest⟩⟩ := tripAccount_cases f worker named hheld
  · rwa [h]
  · exact (hg.tail (.mark g u (by simp))).trans hrest

/-- A report is made of entries, after which the account of its worker may be taken out of use. -/
theorem recordRaw_cases (report : RawReport) (host : Option String) (now : Instant) :
    ∃ g, Entries now f.IsHeld f g ∧ g.boundAccount report.worker = f.boundAccount report.worker ∧
      (f.recordRaw report host now = (none, g) ∨
        ∃ named, f.recordRaw report host now = g.tripAccount report.worker named now) := by
  have htouch : Entry now f.IsHeld f (f.touch report.worker host now) := .other ⟨rfl, rfl⟩
  unfold recordRaw
  extract_lets g named h k
  have hlevel : Entries now f.IsHeld g h ∧ h.sessions = g.sessions := by
    clear_value named
    simp only [h]
    split
    · split
      · exact ⟨.single (.mark g _ (m := .level _) (by simp)),
          (notes_setLevel _ _ _).sessions⟩
      · exact ⟨.refl, rfl⟩
    · exact ⟨.refl, rfl⟩
  refine ⟨k, (ReflTransGen.head htouch hlevel.1).tail (.other ⟨rfl, rfl⟩), ?_, ?_⟩
  · rw [boundAccount_modifySession_same h (by intro; rfl) (by intro; rfl), boundAccount,
      hlevel.2, ← boundAccount, boundAccount_touch]
  · split
    · exact .inr ⟨named, rfl⟩
    · exact .inl rfl

theorem entries_recordRaw (report : RawReport) (host : Option String) :
    Entries now f.IsHeld f (f.recordRaw report host now).2 := by
  obtain ⟨g, hg, hbound, h | ⟨named, h⟩⟩ := f.recordRaw_cases report host now
  · rwa [h]
  · rw [h]
    exact hg.trans (entries_tripAccount g report.worker named fun v hv =>
      ⟨report.worker, hbound.symm.trans hv⟩)

theorem entries_logout (worker : String) : Entries now f.IsHeld f (f.logout worker now).2 := by
  have hdevice (g : Fleet Tables) : SameFiles g (g.persist (.deviceAccount worker none)) :=
    ⟨g.books_persist fun _ => rfl, g.atlas_persist fun _ => rfl⟩
  cases hs : f.sessions.find? worker with
  | none =>
    unfold logout
    rw [hs]
    dsimp only
    split
    · exact .refl
    · exact .refl
    · exact (hdevice f).entries
  | some s =>
    rw [logout_snd hs]
    have hforget : Entries now f.IsHeld f (f.forget s now) := by
      unfold forget
      dsimp only
      have hgone : Entry now f.IsHeld f { f with sessions := f.sessions.remove s.id } :=
        .other ⟨rfl, rfl⟩
      split
      next u hu =>
        refine .tail (.single hgone) (.release _ ⟨worker, ?_⟩)
        rw [boundAccount, hs, Option.bind_some, hu]
      next => exact .single hgone
    refine hforget.tail (.other (.trans ?_ (hdevice _)))
    split
    · exact sameFiles_recalculate _ _ now
    · exact .refl _

end Operations

end Fleet

/-- Whether an operation loads accounts. -/
def Operation.LoadsAccounts : Operation → Prop
  | .bootstrap | .reloadAccounts | .importAccounts _ => True
  | _ => False

/-- Whether an operation is about the quests or the rows of areas and touches no account. -/
def Operation.PlansAreas : Operation → Prop
  | .nextJob _ _ _ | .startQuesting _ | .rebuildQuestRoute _ | .rebuildDue | .reloadAreas => True
  | _ => False

namespace Fleet

variable (f : Fleet Tables) (services : Services) (now : Instant) {op : Operation}

theorem entries_perform (h : ¬ op.LoadsAccounts) (hplan : ¬ op.PlansAreas) :
    Entries now f.IsHeld f (f.perform services now op) := by
  cases op with
  | initWorker worker host => exact (f.sameFiles_initWorker worker host now).entries
  | heartbeat worker host =>
    have htouch : SameFiles f (f.touch worker host now) := ⟨rfl, rfl⟩
    exact (htouch.trans (sameFiles_persistDevice _ worker now)).entries
  | assignAccount worker host => exact f.entries_assignAccount worker host
  | reportAccount u event => exact f.entries_reportAccount u event
  | tutorialDone worker => exact f.entries_tutorialDone worker
  | recordRaw report host => exact f.entries_recordRaw report host
  | logout worker => exact f.entries_logout worker
  | sweep => exact (f.sameFiles_sweep now).entries
  | bootstrap | reloadAccounts | importAccounts => exact absurd trivial h
  | nextJob | startQuesting | rebuildQuestRoute | rebuildDue | reloadAreas =>
    exact absurd trivial hplan

theorem books_perform (h : op.PlansAreas) : (f.perform services now op).books = f.books := by
  cases op with
  | nextJob worker username host => exact f.books_nextJob services worker username host now
  | startQuesting area => exact f.books_startQuesting services area
  | rebuildQuestRoute area => exact f.books_rebuildQuestRoute services area
  | rebuildDue => exact f.books_rebuildDue services now
  | reloadAreas => exact f.books_reloadAreas now
  | _ => exact h.elim

end Fleet

end ScanFleet
