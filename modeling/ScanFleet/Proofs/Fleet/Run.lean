import ScanFleet.Proofs.Fleet.Reload
import ScanFleet.Store.Tables

/-! Runs of a fleet: operations one after the other, with any services and at any times, between
which the store may be edited from outside. -/

namespace ScanFleet

/-- What is asked of a fleet. -/
inductive Operation where
  | bootstrap
  | initWorker (worker : String) (host : Option String)
  | heartbeat (worker : String) (host : Option String)
  | assignAccount (worker : String) (host : Option String)
  | nextJob (worker : String) (username host : Option String)
  | reportAccount (username : String) (event : AccountEvent)
  | tutorialDone (worker : String)
  | recordRaw (report : RawReport) (host : Option String)
  | logout (worker : String)
  | startQuesting (area : Int)
  | rebuildQuestRoute (area : Int)
  | rebuildDue
  | sweep
  | reloadAccounts
  | importAccounts (accounts : List NewAccount)
  | reloadAreas

/-- Something that happens: an operation, or an edit of the store from outside. -/
inductive Event (σ : Type) where
  | perform (op : Operation) (services : Services) (now : Instant)
  | edit (store : σ)

/-- Whether an operation is made of moves alone: it removes no session and loads nothing. -/
def Operation.IsGradual : Operation → Prop
  | .bootstrap | .logout _ | .reloadAccounts | .importAccounts _ | .reloadAreas => False
  | _ => True

/-- Whether a worker reports the messages that it handled. -/
def Event.IsReport {σ : Type} : Event σ → Prop
  | .perform (.recordRaw _ _) _ _ => True
  | _ => False

namespace Fleet

variable {σ : Type} [Store σ]

/-- The fleet after an operation. -/
def perform (f : Fleet σ) (services : Services) (now : Instant) : Operation → Fleet σ
  | .bootstrap => (f.bootstrap now).2
  | .initWorker worker host => (f.initWorker worker host now).2
  | .heartbeat worker host => f.heartbeat worker host now
  | .assignAccount worker host => (f.assignAccount worker host now).2
  | .nextJob worker username host => (f.nextJob services worker username host now).2
  | .reportAccount username event => (f.reportAccount username event now).2
  | .tutorialDone worker => (f.tutorialDone worker).2
  | .recordRaw report host => (f.recordRaw report host now).2
  | .logout worker => (f.logout worker now).2
  | .startQuesting area => (f.startQuesting services area).2
  | .rebuildQuestRoute area => (f.rebuildQuestRoute services area).2
  | .rebuildDue => (f.rebuildDue services now).2
  | .sweep => (f.sweep now).2
  | .reloadAccounts => f.reloadAccounts.2
  | .importAccounts accounts => (f.importAccounts accounts).2
  | .reloadAreas => (f.reloadAreas now).2

def after (f : Fleet σ) : Event σ → Fleet σ
  | .perform op services now => f.perform services now op
  | .edit store => { f with store }

def run (f : Fleet σ) (events : List (Event σ)) : Fleet σ := events.foldl after f

/-- Every event of a run meets a condition in the state in which it happens. -/
def Along (P : Fleet σ → Event σ → Prop) : Fleet σ → List (Event σ) → Prop
  | _, [] => True
  | f, e :: events => P f e ∧ Along P (f.after e) events

instance decidableAlong {P : Fleet σ → Event σ → Prop} [∀ f, DecidablePred (P f)] :
    ∀ (f : Fleet σ) (events : List (Event σ)), Decidable (Along P f events)
  | _, [] => .isTrue trivial
  | f, e :: events => @instDecidableAnd _ _ _ (decidableAlong (f.after e) events)

/-- What every event that meets a condition keeps, a run of such events keeps. -/
theorem run_keeps {I : Fleet σ → Prop} {P : Fleet σ → Event σ → Prop}
    (hstep : ∀ f e, I f → P f e → I (f.after e)) {f : Fleet σ} (hf : I f)
    {events : List (Event σ)} (h : Along P f events) : I (f.run events) := by
  induction events generalizing f with
  | nil => exact hf
  | cons e events ih => exact ih (hstep f e hf h.1) h.2

theorem along_append {P : Fleet σ → Event σ → Prop} {f : Fleet σ} {before events : List (Event σ)} :
    Along P f (before ++ events) ↔ Along P f before ∧ Along P (f.run before) events := by
  induction before generalizing f with
  | nil => exact ⟨fun h => ⟨trivial, h⟩, And.right⟩
  | cons e before ih =>
    rw [List.cons_append, Along, ih, Along, and_assoc]
    rfl

theorem run_append (f : Fleet σ) (before events : List (Event σ)) :
    f.run (before ++ events) = (f.run before).run events := List.foldl_append

/-! ### Logouts -/

/-- The fleet after a session was removed and its account given back. -/
def forget (f : Fleet σ) (s : Session) (now : Instant) : Fleet σ :=
  let f := { f with sessions := f.sessions.remove s.id }
  match s.username with
  | some username => f.release username now
  | none => f

theorem sameWork_forget (f : Fleet σ) (s : Session) (now : Instant) :
    SameWork { f with sessions := f.sessions.remove s.id } (f.forget s now) := by
  unfold forget
  dsimp only
  split
  · exact sameWork_release _ _ _
  · exact .refl _

theorem notes_logout {f : Fleet σ} {worker : String} (h : f.sessions.find? worker = none)
    (now : Instant) : Notes f (f.logout worker now).2 := by
  unfold logout
  rw [h]
  dsimp only
  split
  · exact .refl f
  · exact .refl f
  · exact notes_persist _ _

theorem logout_snd {f : Fleet σ} {worker : String} {s : Session}
    (h : f.sessions.find? worker = some s) (now : Instant) :
    (f.logout worker now).2 =
      (match s.area with
        | some area => ((f.forget s now).recalculate area now).2
        | none => f.forget s now).persist (.deviceAccount worker none) := by
  have hid := Sessions.id_of_find? h
  subst hid
  unfold logout
  rw [h]
  rfl

theorem quietMoves_logout {f : Fleet σ} {worker : String} {s : Session}
    (h : f.sessions.find? worker = some s) (now : Instant) :
    QuietMoves now (f.forget s now) (f.logout worker now).2 := by
  rw [logout_snd h]
  refine .tail ?_ (.note (notes_persist _ _))
  split
  · exact .single (.recut _ _)
  · exact .refl

/-! ### What an event does -/

theorem quietMoves_perform (f : Fleet σ) (services : Services) (now : Instant) {op : Operation}
    (h : op.IsGradual) (hreport : ¬ Event.IsReport (.perform op services now : Event σ)) :
    QuietMoves now f (f.perform services now op) := by
  cases op with
  | initWorker worker host => exact quietMoves_initWorker f worker host now
  | heartbeat worker host => exact quietMoves_heartbeat f worker host now
  | assignAccount worker host => exact quietMoves_assignAccount f worker host now
  | nextJob worker username host => exact quietMoves_nextJob f services worker host now username
  | reportAccount username event =>
    exact (notes_reportAccount f username event now).quietMoves now
  | tutorialDone worker => exact quietMoves_tutorialDone f worker now
  | recordRaw report host => exact absurd trivial hreport
  | startQuesting area => exact quietMoves_startQuesting f services now area
  | rebuildQuestRoute area => exact quietMoves_rebuildQuestRoute f services now area
  | rebuildDue => exact quietMoves_rebuildDue f services now
  | sweep => exact quietMoves_sweep f now
  | bootstrap | logout | reloadAccounts | importAccounts | reloadAreas => exact h.elim

theorem moves_perform (f : Fleet σ) (services : Services) (now : Instant) {op : Operation}
    (h : op.IsGradual) : Moves now f (f.perform services now op) := by
  by_cases hreport : Event.IsReport (.perform op services now : Event σ)
  · cases op with
    | recordRaw report host => exact moves_recordRaw f host now report
    | _ => exact hreport.elim
  · exact (quietMoves_perform f services now h hreport).moves

/-- The rows of accounts that an event loads, if it loads any. -/
def loadedRows (f : Fleet σ) : Event σ → Option (List Account)
  | .perform .bootstrap _ now => f.bootstrapRows now
  | .perform .reloadAccounts _ _ => f.reloadRows
  | .perform (.importAccounts accounts) _ _ => f.importRows accounts
  | _ => none

/-- What an event makes of a fleet. -/
inductive Outcome (f : Fleet σ) : Event σ → Fleet σ → Prop
  | moves {e : Event σ} {g : Fleet σ} (now : Instant) (h : Moves now f g)
      (hquiet : ¬ e.IsReport → QuietMoves now f g) : Outcome f e g
  | logout {worker : String} {s : Session} {services : Services} {now : Instant}
      (hs : f.sessions.find? worker = some s) :
      Outcome f (.perform (.logout worker) services now) (f.logout worker now).2
  | load {e : Event σ} {g : Fleet σ} (hwork : SameWork f g)
      (hpool : g.pool = f.pool.load (f.loadedRows e)) : Outcome f e g
  | startup {services : Services} {now : Instant} :
      Outcome f (.perform .bootstrap services now) (f.bootstrap now).2
  | reload {rows : List AreaRecord} {services : Services} {now : Instant}
      (hrows : (f.reloadAreas now).2 = (f.reconcile rows).recalculateAll (f.affected rows) now) :
      Outcome f (.perform .reloadAreas services now) (f.reloadAreas now).2

theorem QuietMoves.outcome {f g : Fleet σ} {now : Instant} (h : QuietMoves now f g)
    (e : Event σ) : Outcome f e g := .moves now h.moves fun _ => h

theorem outcome (f : Fleet σ) (e : Event σ) : Outcome f e (f.after e) := by
  cases e with
  | edit store =>
    have hnotes : Notes f { f with store } := ⟨⟨rfl, rfl, rfl⟩, .refl f.pool⟩
    exact (hnotes.quietMoves 0).outcome _
  | perform op services now =>
    by_cases hop : op.IsGradual
    · exact .moves now (moves_perform f services now hop) (quietMoves_perform f services now hop)
    · cases op with
      | bootstrap => exact .startup
      | logout worker =>
        cases hs : f.sessions.find? worker with
        | none => exact ((notes_logout hs now).quietMoves now).outcome _
        | some s => exact .logout hs
      | reloadAccounts => exact .load (sameWork_reloadAccounts f) (reloadAccounts_pool f)
      | importAccounts accounts =>
        exact .load (sameWork_importAccounts f accounts) (importAccounts_pool f accounts)
      | reloadAreas =>
        have hsnd := reloadAreas_snd f now
        change Outcome f _ (f.reloadAreas now).2
        split at hsnd
        next =>
          rw [hsnd]
          have hstay : QuietMoves now f f := .refl
          exact hstay.outcome _
        next rows _ => exact .reload hsnd
      | _ => exact absurd trivial hop

theorem settings_after (f : Fleet σ) (e : Event σ) : (f.after e).settings = f.settings := by
  have h := f.outcome e
  generalize f.after e = g at h ⊢
  cases h with
  | moves _ hm => exact hm.settings
  | logout hs =>
    exact (quietMoves_logout hs _).moves.settings.trans (sameWork_forget f _ _).settings
  | load hwork hpool => exact hwork.settings
  | startup => exact (bootstrap_keeps f _).1.settings
  | @reload rows services now hrows =>
    rw [hrows]
    exact (quietMoves_recalculateAll _ _ now).moves.settings.trans (reconcile_keeps f rows).1

theorem settings_run (f : Fleet σ) (events : List (Event σ)) :
    (f.run events).settings = f.settings := by
  induction events generalizing f with
  | nil => rfl
  | cons e events ih => exact (ih (f.after e)).trans (settings_after f e)

/-! ### Sound duties in every state -/

theorem Sound.forget {f : Fleet σ} (hf : f.Sound) (s : Session) (now : Instant) :
    (f.forget s now).Sound := by
  have hremove : Sound { f with sessions := f.sessions.remove s.id } :=
    ⟨hf.distinct.remove _, fun x hx => (hf.fits x (Sessions.mem_remove.mp hx).1).congr
      fun _ h => h⟩
  exact hremove.extends (sameWork_forget f s now).extends

theorem Sound.after {f : Fleet σ} (hf : f.Sound) (e : Event σ) : (f.after e).Sound := by
  have h := f.outcome e
  generalize f.after e = g at h ⊢
  cases h with
  | moves _ hm => exact hf.moves hm
  | logout hs => exact (hf.forget _ _).moves (quietMoves_logout hs _).moves
  | load hwork hpool => exact hf.extends hwork.extends
  | startup => exact hf.extends (bootstrap_keeps f _).1
  | @reload rows services now hrows =>
    rw [hrows]
    exact (hf.reconcile rows).moves (quietMoves_recalculateAll _ _ now).moves

theorem Sound.run {f : Fleet σ} (hf : f.Sound) (events : List (Event σ)) :
    (f.run events).Sound := by
  induction events generalizing f with
  | nil => exact hf
  | cons e events ih => exact ih (hf.after e)

omit [Store σ] in
theorem sound_new (settings : Settings) (store : σ) : (Fleet.new settings store).Sound :=
  sound_empty rfl

/-! ### A small fleet -/

/-- An account, and an area with a route of four steps for two workers. -/
def smallStore : Tables :=
  { Tables.empty with
    accounts := [.fresh ⟨"ada", "pw", 30⟩]
    areas := [{ (default : AreaRecord) with
      id := 1, pokemonWorkers := 2, pokemonRoute := some "1 1,2 2,3 3,4 4" }] }

/-- Workers are stale after five minutes, and one message of kind 7 is allowed. -/
def smallSettings : Settings :=
  { (default : Settings) with
    unseen := .ofMinutes 5, minLevel := 30, maxLevel := 40, limits := .ofList [(7, 1)] }

end Fleet

end ScanFleet
