import ScanFleet.Proofs.Fleet.Breaker
import ScanFleet.Proofs.Fleet.Reconciliation
import ScanFleet.Proofs.Traffic.Ownership

/-! Requests that are handled alone.  Step by step such a request does what the operation does at
once, and it has the same answer. -/

namespace ScanFleet.Traffic

variable {σ : Type}

/-! ### Sessions of the fleet by their numbers -/

section

variable {t : Shared σ} {worker : String} {x : Session}

theorem object_of_find? (ht : t.Sound) (hx : t.fleet.sessions.find? worker = some x) :
    t.object x.seq = x :=
  object_of_mem ht.numbered (List.mem_append_left _ (Sessions.mem_of_find? hx))

/-- A change of the session of a number is one of the session of its worker. -/
theorem modify_of_find? (ht : t.Sound) (hx : t.fleet.sessions.find? worker = some x)
    {k k' : Session → Session} (hk : k x = k' x) :
    t.modify x.seq k = { t with fleet := t.fleet.modifySession worker k' } := by
  have hmem := Sessions.mem_of_find? hx
  have hid := Sessions.id_of_find? hx
  have hnodup := ht.numbered
  rw [Shared.numbers, Shared.objects, List.map_append, List.nodup_append'] at hnodup
  have hlist : t.fleet.sessions.list.map (changed x.seq k) =
      t.fleet.sessions.list.map fun y => if y.id = worker then k' y else y := by
    refine List.map_congr_left fun y hy => ?_
    unfold changed
    by_cases he : y.id = worker
    · have hyx := Sessions.eq_of_id ht.sessions hy hmem (he.trans hid.symm)
      rw [if_pos he, hyx, if_pos rfl, hk]
    · have hne : y.seq ≠ x.seq := fun hseq =>
        he (by rw [Keyed.eq_of_key (k := fun x : Session => x.seq) hnodup.1 hy hmem hseq, hid])
      rw [if_neg he, if_neg hne]
  have hgone : t.gone.map (changed x.seq k) = t.gone :=
    map_changed_of_not_mem k (hnodup.2.2 (List.mem_map_of_mem hmem))
  rw [Shared.modify, hlist, hgone]
  rfl

/-- A change of a session that was removed leaves the fleet alone. -/
theorem fleet_modify_of_gone (ht : t.Sound) (hx : x ∈ t.gone) (k : Session → Session) :
    (t.modify x.seq k).fleet = t.fleet := by
  have hnodup := ht.numbered
  rw [Shared.numbers, Shared.objects, List.map_append, List.nodup_append'] at hnodup
  have hlist : t.fleet.sessions.list.map (changed x.seq k) = t.fleet.sessions.list :=
    map_changed_of_not_mem k fun hmem => hnodup.2.2 hmem (List.mem_map_of_mem hx)
  rw [Shared.modify, hlist]

end

/-! ### Requests alone -/

variable [Store σ] {now : Instant} {t : Shared σ} {s : Stage} {answer : Answer} {f : Fleet σ}

/-- A request that is alone comes from a stage to an answer, and leaves a fleet behind. -/
def Leads (now : Instant) (s : Stage) (t : Shared σ) (answer : Answer) (f : Fleet σ) : Prop :=
  ∃ n, let t' := (⟨t, [⟨now, s⟩]⟩ : State σ).run (List.replicate n (.go 0))
    t'.tasks = [⟨now, .done answer⟩] ∧ t'.shared.fleet = f

theorem leads_done : Leads now (.done answer) t answer t.fleet := ⟨0, rfl, rfl⟩

theorem leads_next (h : Leads now (s.next now t).1 (s.next now t).2 answer f) :
    Leads now s t answer f := by
  obtain ⟨n, hn⟩ := h
  exact ⟨n + 1, hn⟩

theorem sound_next (ht : t.Sound) (s : Stage) (now : Instant) : (s.next now t).2.Sound :=
  sound_step ht (step_next now ht.sessions s)

section

variable {worker : String} {x : Session}

theorem leads_storeDevice (ht : t.Sound) (hx : t.fleet.sessions.find? worker = some x) :
    Leads now (.storeDevice x.seq answer) t answer (t.fleet.persistDevice worker now) := by
  refine leads_next ?_
  have hid := Sessions.id_of_find? hx
  rw [Fleet.persistDevice, hx]
  simp only [Stage.next, object_of_find? ht hx, hid]
  exact leads_done

theorem leads_cut_storeDevice (ht : t.Sound) (hx : t.fleet.sessions.find? worker = some x)
    (area : Int) :
    Leads now (.cut area (.storeDevice x.seq answer)) t answer
      ((t.fleet.recalculate area now).2.persistDevice worker now) := by
  refine leads_next ?_
  obtain ⟨k, hk, hsame⟩ := Fleet.map_recalculate ht.sessions area now
  have hfind : (t.fleet.recalculate area now).2.sessions.find? worker = some (k x) := by
    rw [Sessions.find?, hk, Keyed.find?_map (k := fun x : Session => x.id) fun x => (hsame x).1.id,
      ← Sessions.find?, hx, Option.map_some]
  rw [← (hsame x).1.seq]
  exact leads_storeDevice (sound_next ht (.cut area (.storeDevice x.seq answer)) now) hfind

omit [Store σ] in
theorem find?_modifySession {k : Session → Session} (hk : ∀ x, (k x).id = x.id)
    (hx : f.sessions.find? worker = some x) :
    (f.modifySession worker k).sessions.find? worker = some (k x) := by
  rw [Fleet.modifySession, Sessions.find?_modify hk, if_pos rfl, hx, Option.map_some]

theorem leads_bind (ht : t.Sound) (hx : t.fleet.sessions.find? worker = some x) (area : Int)
    (c : Credentials) :
    Leads now (.bind x.seq area c) t (.credentials (.ok c))
      (((t.fleet.bindAccount worker c.username now).recalculate area now).2.persistDevice
        worker now) := by
  have hmodify : t.modify x.seq (·.bindAccount c.username) =
      { t with fleet := t.fleet.modifySession worker (·.bindAccount c.username) } :=
    modify_of_find? ht hx rfl
  have hsound := sound_next ht (.bind x.seq area c) now
  have hfind : (t.fleet.modifySession worker (·.bindAccount c.username)).sessions.find? worker =
      some (x.bindAccount c.username) := find?_modifySession (by intro; rfl) hx
  refine leads_next ?_
  rw [Fleet.bindAccount, hx, Option.bind_some]
  simp only [Stage.next, hmodify, object_of_find? ht hx] at hsound ⊢
  cases x.displaced c.username with
  | none => exact leads_cut_storeDevice hsound hfind area
  | some previous =>
    refine leads_next ?_
    exact leads_cut_storeDevice (sound_next hsound (.giveBack previous (.unbind 0)) now) hfind area

omit [Store σ] in
theorem exists_find?_touch (f : Fleet σ) (worker : String) (host : Option String)
    (now : Instant) : ∃ x, (f.touch worker host now).sessions.find? worker = some x :=
  Option.isSome_iff_exists.mp (f.sessions.isSome_find?_touch worker host now)

theorem leads_account (ht : t.Sound) (host : Option String) :
    Leads now (.start (.account worker host)) t
      (.credentials (t.fleet.assignAccount worker host now).1)
      (t.fleet.assignAccount worker host now).2 := by
  obtain ⟨x, hx⟩ := exists_find?_touch t.fleet worker host now
  have hsound := sound_next ht (.start (.account worker host)) now
  refine leads_next ?_
  simp only [Stage.next, Fleet.assignAccount] at hsound ⊢
  generalize t.fleet.touch worker host now = g at hx hsound ⊢
  rw [numberOf_mem hx]
  refine leads_next ?_
  have hid := Sessions.id_of_find? hx
  have hobject := object_of_find? hsound hx
  simp only [Stage.next, hobject, Fleet.boundArea, hx, Option.bind_some]
  cases x.area.bind g.areas.find? with
  | none =>
    rw [hid]
    exact leads_done
  | some a =>
    refine leads_next ?_
    have hselected := sound_next hsound (.select x.seq a.id) now
    have hsessions := (Fleet.sameWork_allocate g g.accepts now).sessions
    simp only [Stage.next] at hselected ⊢
    cases hc : g.allocate g.accepts now with
    | mk result g' =>
      rw [hc] at hselected hsessions
      cases result with
      | none => exact leads_done
      | some c => exact leads_bind hselected (by rw [hsessions, hx]) a.id c

theorem leads_clearDevice (t : Shared σ) (worker : String) :
    Leads now (.clearDevice worker) t (.noted (.ok ()))
      (t.fleet.persist (.deviceAccount worker none)) := leads_next leads_done

/-- The end of a logout, after the account of the session was given back. -/
theorem leads_leave (ht : t.Sound) (hx : x ∈ t.gone) :
    Leads now (.leave x.seq) t (.noted (.ok ()))
      ((match x.area with
        | some area => (t.fleet.recalculate area now).2
        | none => t.fleet).persist (.deviceAccount x.id none)) := by
  have hobject := object_of_mem ht.numbered (List.mem_append_right t.fleet.sessions.list hx)
  have hfleet := fleet_modify_of_gone ht hx (·.unbindArea)
  refine leads_next ?_
  simp only [Stage.next, hobject]
  cases x.area with
  | none =>
    rw [← hfleet]
    exact leads_clearDevice _ _
  | some area =>
    refine leads_next ?_
    rw [← hfleet]
    exact leads_clearDevice _ _

theorem leads_unbind (ht : t.Sound) (hx : x ∈ t.gone) :
    Leads now (.unbind x.seq) t (.noted (.ok ()))
      (let f := match x.username with
        | some u => t.fleet.release u now
        | none => t.fleet
      (match x.area with
        | some area => (f.recalculate area now).2
        | none => f).persist (.deviceAccount x.id none)) := by
  have hobject := object_of_mem ht.numbered (List.mem_append_right t.fleet.sessions.list hx)
  have hfleet := fleet_modify_of_gone ht hx (·.unbindAccount)
  have hsound := sound_next ht (.unbind x.seq) now
  have hx' : x.unbindAccount ∈ t.gone.map (changed x.seq (·.unbindAccount)) :=
    List.mem_map.mpr ⟨x, hx, if_pos rfl⟩
  refine leads_next ?_
  simp only [Stage.next, hobject] at hsound ⊢
  cases x.username with
  | none =>
    rw [← hfleet]
    exact leads_leave (x := x.unbindAccount) hsound hx'
  | some u =>
    refine leads_next ?_
    rw [← hfleet]
    have hreleased := sound_next hsound (.giveBack u (.unbind 0)) now
    exact leads_leave (x := x.unbindAccount) hreleased hx'

theorem leads_logout (ht : t.Sound) (worker : String) :
    Leads now (.start (.logout worker)) t (.noted (t.fleet.logout worker now).1)
      (t.fleet.logout worker now).2 := by
  have hsound := sound_next ht (.start (.logout worker)) now
  refine leads_next ?_
  simp only [Stage.next, Fleet.logout] at hsound ⊢
  cases hx : t.fleet.sessions.find? worker with
  | none =>
    refine leads_next ?_
    simp only [Stage.next]
    cases Store.findDevice worker t.fleet.store with
    | error e => exact leads_done
    | ok device =>
      cases device with
      | none => exact leads_done
      | some d => exact leads_clearDevice t worker
  | some x =>
    rw [hx] at hsound
    rw [← Sessions.id_of_find? hx]
    rw [← Sessions.id_of_find? hx] at hsound
    exact leads_unbind hsound (by simp)

omit [Store σ] in
theorem modifySession_modifySession {k : Session → Session} (hk : ∀ x, (k x).id = x.id)
    (k' : Session → Session) (f : Fleet σ) (worker : String) :
    (f.modifySession worker k).modifySession worker k' =
      f.modifySession worker fun x => k' (k x) := by
  simp only [Fleet.modifySession, Sessions.modify, List.map_map]
  congr 3
  funext x
  by_cases hx : x.id = worker <;> simp [hx, hk]

theorem leads_trip (ht : t.Sound) (hx : t.fleet.sessions.find? worker = some x)
    (hzero : x.usage = .zero) (named : Option String) :
    Leads now (.trip x.seq named) t (.tripped (t.fleet.tripAccount worker named now).1)
      (t.fleet.tripAccount worker named now).2 := by
  have hmodify : t.modify x.seq (·.unbindAccount) =
      { t with fleet := t.fleet.modifySession worker fun x =>
        { x with usage := .zero, username := none } } :=
    modify_of_find? ht hx (by rw [← hzero]; rfl)
  have hbound : t.fleet.boundAccount worker = x.username := by rw [Fleet.boundAccount, hx]; rfl
  refine leads_next ?_
  simp only [Stage.next, Fleet.tripAccount, hmodify, hbound, object_of_find? ht hx]
  cases x.username with
  | some u => exact leads_next (leads_next leads_done)
  | none =>
    cases named with
    | some u => exact leads_next leads_done
    | none => exact leads_done

/-- The breaker does not ask for the counts. -/
theorem tripAccount_modifySession (f : Fleet σ) (worker : String) (c : Usage → Usage)
    (named : Option String) (now : Instant) :
    (f.modifySession worker fun x => { x with usage := c x.usage }).tripAccount worker named now =
      f.tripAccount worker named now := by
  unfold Fleet.tripAccount
  rw [Fleet.boundAccount_modifySession_same f (by intro; rfl) (by intro; rfl),
    modifySession_modifySession (by intro; rfl)]

theorem leads_count (ht : t.Sound) (hx : t.fleet.sessions.find? worker = some x)
    (kinds : List MessageType) (named : Option String) :
    let f := t.fleet.modifySession worker fun s => { s with usage := s.usage.record kinds }
    let r := if f.isOverLimit worker then f.tripAccount worker named now else (none, f)
    Leads now (.count x.seq kinds named) t (.tripped r.1) r.2 := by
  intro f r
  have hfind : f.sessions.find? worker = some { x with usage := x.usage.record kinds } :=
    find?_modifySession (by intro; rfl) hx
  have hover : f.isOverLimit worker =
      t.fleet.sessions.limits.exceededBy (x.usage.record kinds) := by
    rw [Fleet.isOverLimit, hfind]
    rfl
  have hcounted := sound_next ht (.count x.seq kinds named) now
  refine leads_next ?_
  simp only [r, hover]
  simp only [Stage.next, object_of_find? ht hx] at hcounted ⊢
  split at hcounted
  next hlimit =>
    rw [if_pos hlimit, if_pos hlimit]
    have hmodify : t.modify x.seq (fun x => { x with usage := .zero }) =
        { t with fleet := t.fleet.modifySession worker fun x => { x with usage := .zero } } :=
      modify_of_find? ht hx rfl
    have hreset := tripAccount_modifySession t.fleet worker (fun _ => .zero) named now
    have hrecord := tripAccount_modifySession t.fleet worker (·.record kinds) named now
    rw [hmodify] at hcounted ⊢
    rw [hrecord, ← hreset]
    exact leads_trip hcounted (find?_modifySession (by intro; rfl) hx) rfl named
  next hlimit =>
    rw [if_neg hlimit, if_neg hlimit]
    have hmodify : t.modify x.seq (fun y => { y with usage := x.usage.record kinds }) =
        { t with fleet := f } := modify_of_find? ht hx rfl
    rw [hmodify]
    exact leads_done

theorem leads_report (ht : t.Sound) (r : RawReport) (host : Option String) :
    Leads now (.start (.report r host)) t (.tripped (t.fleet.recordRaw r host now).1)
      (t.fleet.recordRaw r host now).2 := by
  obtain ⟨x, hx⟩ := exists_find?_touch t.fleet r.worker host now
  have hsound := sound_next ht (.start (.report r host)) now
  have hbound : (t.fleet.touch r.worker host now).boundAccount r.worker = x.username := by
    rw [Fleet.boundAccount, hx]
    rfl
  have hnamed : (t.fleet.touch r.worker host now).namedAccount r.worker r.username =
      (r.username.filter (· != "") <|> x.username) := by rw [Fleet.namedAccount, hbound]
  rw [Fleet.recordRaw_eq]
  refine leads_next ?_
  simp only [Stage.next, numberOf_mem hx] at hsound ⊢
  refine leads_next ?_
  simp only [Stage.next, object_of_find? hsound hx, ← hnamed]
  have hlevel : Stage.next now ⟨t.fleet.touch r.worker host now, t.gone⟩ (.level x.seq r
      ((t.fleet.touch r.worker host now).namedAccount r.worker r.username)) =
      (.count x.seq r.methods ((t.fleet.touch r.worker host now).namedAccount r.worker r.username),
        ⟨t.fleet.heard host now r, t.gone⟩) := by
    simp only [Stage.next, Fleet.heard]
    cases (t.fleet.touch r.worker host now).namedAccount r.worker r.username with
    | some u =>
      dsimp only
      split <;> rfl
    | none => rfl
  have hheard := sound_next hsound (.level x.seq r
    ((t.fleet.touch r.worker host now).namedAccount r.worker r.username)) now
  have hfind : (t.fleet.heard host now r).sessions.find? r.worker = some x := by
    rw [Fleet.heard_sessions]
    exact hx
  refine leads_next ?_
  rw [hlevel] at hheard ⊢
  exact leads_count hheard hfind r.methods _

end

/-- In every state of a run, a request that is handled alone step by step has the answer of its
operation, and the fleet is then what the operation makes of it. -/
theorem run_alone (settings : Settings) (store : σ) (events : List (Event σ)) (request : Request)
    (services : Services) (now : Instant) :
    let f := (Fleet.new settings store).run events
    ∃ n, let t := (State.idle f).run (.arrive request now :: List.replicate n (.go 0))
      t.tasks = [⟨now, .done (f.respond services now request.operation).1⟩] ∧
        t.shared.fleet = (f.respond services now request.operation).2 := by
  intro f
  have hsound := sound_idle ((Fleet.sound_new settings store).run events).distinct
    (Fleet.poolSound_run Pool.sound_empty events)
    ((Fleet.ordered_new settings store).run (Fleet.sound_new settings store) events).sessions
  cases request with
  | account worker host => exact leads_account hsound host
  | logout worker => exact leads_logout hsound worker
  | report r host => exact leads_report hsound r host

end ScanFleet.Traffic
