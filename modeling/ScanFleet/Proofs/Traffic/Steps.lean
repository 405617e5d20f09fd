import ScanFleet.Proofs.Fleet.Bindings
import ScanFleet.Proofs.Traffic.Basic

/-! The kinds of steps that requests are made of.  Most of them have nothing to do with accounts;
the others create a session, remove one, select an account, bind the one in hand, take one from a
session or give one back. -/

namespace ScanFleet.Traffic

/-! ### Sessions by their numbers -/

section

variable {σ : Type} {t : Shared σ} {n : Nat} {x : Session}

theorem object_of_mem (h : (t.objects.map (·.seq)).Nodup) (hx : x ∈ t.objects) :
    t.object x.seq = x := by
  rw [Shared.object, (Keyed.find?_eq_some_iff (k := fun x : Session => x.seq) h).mpr ⟨hx, rfl⟩]
  rfl

theorem objects_modify (t : Shared σ) (n : Nat) (k : Session → Session) :
    (t.modify n k).objects = t.objects.map (changed n k) := by
  rw [Shared.objects, Shared.objects, List.map_append]
  rfl

theorem seq_changed {k : Session → Session} (hk : ∀ x, (k x).seq = x.seq) (n : Nat) (x : Session) :
    (changed n k x).seq = x.seq := by
  unfold changed
  split
  · exact hk x
  · rfl

theorem id_changed {k : Session → Session} (hk : ∀ x, (k x).id = x.id) (n : Nat) (x : Session) :
    (changed n k x).id = x.id := by
  unfold changed
  split
  · exact hk x
  · rfl

theorem map_changed_of_not_mem (k : Session → Session) {l : List Session}
    (h : n ∉ l.map (·.seq)) : l.map (changed n k) = l := by
  conv => rhs; rw [← List.map_id l]
  refine List.map_congr_left fun y hy => ?_
  rw [changed, if_neg fun he => h (List.mem_map.mpr ⟨y, hy, he⟩), id]

/-- A change of the session of one number changes how many sessions have a property by that one. -/
theorem countP_changed (p : Session → Bool) (k : Session → Session) {l : List Session}
    (h : (l.map (·.seq)).Nodup) (hx : x ∈ l) :
    (l.map (changed x.seq k)).countP p + (if p x then 1 else 0) =
      l.countP p + (if p (k x) then 1 else 0) :=
  Keyed.countP_change (k := fun x : Session => x.seq) p k h hx

theorem numberOf_mem {f : Fleet σ} {worker : String} (h : f.sessions.find? worker = some x) :
    numberOf f worker = x.seq := by
  rw [numberOf, h]
  rfl

end

/-! ### Kinds of steps -/

section

variable {σ : Type}

/-- A change of a session other than of its account. -/
structure KeepsAccount (k : Session → Session) : Prop where
  id : ∀ x, (k x).id = x.id
  seq : ∀ x, (k x).seq = x.seq
  username : ∀ x, (k x).username = x.username

theorem keepsAccount_id : KeepsAccount id := ⟨fun _ => rfl, fun _ => rfl, fun _ => rfl⟩

theorem KeepsAccount.changed {k : Session → Session} (h : KeepsAccount k) (n : Nat) :
    KeepsAccount (changed n k) := by
  refine ⟨id_changed h.id n, seq_changed h.seq n, fun x => ?_⟩
  unfold Traffic.changed
  split
  · exact h.username x
  · rfl

/-- A step that has nothing to do with the accounts of sessions and the flags of the pool. -/
structure Works (s : Stage) (t : Shared σ) (s' : Stage) (t' : Shared σ) : Prop where
  list : ∃ k, KeepsAccount k ∧ t'.fleet.sessions.list = t.fleet.sessions.list.map k
  gone : ∃ k, KeepsAccount k ∧ t'.gone = t.gone.map k
  next : t'.fleet.sessions.next = t.fleet.sessions.next
  flags : Pool.SameFlags t.fleet.pool t'.fleet.pool
  holds : ∀ u, s'.holds u = s.holds u
  sessions : s'.sessions ⊆ s.sessions
  unbinds : ∀ n, s.unbinds n = false

/-- What a step of a request does. -/
inductive Step [Store σ] (now : Instant) : Stage → Shared σ → Stage → Shared σ → Prop
  | work {s s' : Stage} {t t' : Shared σ} (h : Works s t s' t') : Step now s t s' t'
  | enter {request : Request} {t : Shared σ} {s' : Stage} (worker : String) (host : Option String)
      (hholds : ∀ u, s'.holds u = 0)
      (hsessions : s'.sessions = [numberOf (t.fleet.touch worker host now) worker]) :
      Step now (.start request) t s' { t with fleet := t.fleet.touch worker host now }
  | remove {t : Shared σ} {worker : String} {x : Session}
      (hx : t.fleet.sessions.find? worker = some x) :
      Step now (.start (.logout worker)) t (.unbind x.seq)
        ⟨{ t.fleet with sessions := t.fleet.sessions.remove worker }, t.gone ++ [x]⟩
  | select {t : Shared σ} {n : Nat} {area : Int} {c : Credentials} (accept : Account → Bool)
      (hc : (t.fleet.allocate accept now).1 = some c) :
      Step now (.select n area) t (.bind n area c)
        { t with fleet := (t.fleet.allocate accept now).2 }
  | bind {t : Shared σ} {n : Nat} {area : Int} {c : Credentials} {s' : Stage}
      (hholds : ∀ u, s'.holds u =
        if (t.object n).displaced c.username = some u then 1 else 0)
      (hsessions : s'.sessions ⊆ [n]) :
      Step now (.bind n area c) t s' (t.modify n (·.bindAccount c.username))
  | take {t : Shared σ} {n : Nat} {s s' : Stage} (hs : s = .unbind n ∨ ∃ named, s = .trip n named)
      (hholds : ∀ u, s'.holds u = if (t.object n).username = some u then 1 else 0)
      (hsessions : s'.sessions ⊆ [n]) :
      Step now s t s' (t.modify n (·.unbindAccount))
  | release {t : Shared σ} {u : String} {next : Stage} :
      Step now (.giveBack u next) t next { t with fleet := t.fleet.release u now }

namespace Works

variable {s s' : Stage} {t : Shared σ}

theorem of_notes {g : Fleet σ} (h : Fleet.Notes t.fleet g) (hholds : ∀ u, s'.holds u = s.holds u)
    (hsessions : s'.sessions ⊆ s.sessions) (hs : ∀ n, s.unbinds n = false) :
    Works s t s' { t with fleet := g } where
  list := ⟨id, keepsAccount_id, by rw [List.map_id, h.sessions]⟩
  gone := ⟨id, keepsAccount_id, by rw [List.map_id]⟩
  next := by rw [h.sessions]
  flags := h.flags
  holds := hholds
  sessions := hsessions
  unbinds := hs

theorem of_same (hholds : ∀ u, s'.holds u = s.holds u) (hsessions : s'.sessions ⊆ s.sessions)
    (hs : ∀ n, s.unbinds n = false) : Works s t s' t := of_notes (.refl _) hholds hsessions hs

theorem of_modify {k : Session → Session} (hk : KeepsAccount k) (n : Nat)
    (hholds : ∀ u, s'.holds u = s.holds u) (hsessions : s'.sessions ⊆ s.sessions)
    (hs : ∀ n, s.unbinds n = false) : Works s t s' (t.modify n k) where
  list := ⟨changed n k, hk.changed n, rfl⟩
  gone := ⟨changed n k, hk.changed n, rfl⟩
  next := rfl
  flags := .refl _
  holds := hholds
  sessions := hsessions
  unbinds := hs

theorem of_recalculate (hd : t.fleet.sessions.Distinct) (area : Int) (next : Stage)
    (now : Instant) :
    Works (.cut area next) t next { t with fleet := (t.fleet.recalculate area now).2 } := by
  obtain ⟨k, hk, hsame⟩ := Fleet.map_recalculate hd area now
  obtain ⟨list, hlist⟩ := Fleet.exists_list_recalculate t.fleet area now
  constructor
  case list =>
    exact ⟨k, ⟨fun x => (hsame x).1.id, fun x => (hsame x).1.seq,
      fun x => (hsame x).1.username⟩, hk⟩
  case gone => exact ⟨id, keepsAccount_id, by rw [List.map_id]⟩
  case next => rw [hlist]
  case flags =>
    rw [Fleet.recalculate_pool]
    exact .refl _
  case holds => exact fun _ => rfl
  case sessions => exact fun _ hn => hn
  case unbinds => exact fun _ => rfl

end Works

variable [Store σ] (now : Instant) {t : Shared σ}

/-- Every step of a request is of one of these kinds. -/
theorem step_next (hd : t.fleet.sessions.Distinct) (s : Stage) :
    Step now s t (s.next now t).1 (s.next now t).2 := by
  have nothing (s : Stage) : [] ⊆ s.sessions := List.nil_subset _
  cases s with
  | start request =>
    cases request with
    | account worker host => exact .enter worker host (fun _ => rfl) rfl
    | report r host => exact .enter r.worker host (fun _ => rfl) rfl
    | logout worker =>
      simp only [Stage.next]
      split
      next => exact .work (.of_same (fun _ => rfl) (nothing _) fun _ => rfl)
      next x hx => exact .remove hx
  | findArea n =>
    simp only [Stage.next]
    split
    next => exact .work (.of_same (fun _ => rfl) (nothing _) fun _ => rfl)
    next a _ => exact .work (.of_same (fun _ => rfl) (List.Subset.refl _) fun _ => rfl)
  | select n area =>
    simp only [Stage.next]
    split
    next f hf =>
      have hnotes : Fleet.Notes t.fleet (t.fleet.allocate t.fleet.accepts now).2 :=
        Fleet.notes_allocate (by rw [hf])
      rw [hf] at hnotes
      exact .work (.of_notes hnotes (fun _ => rfl) (nothing _) fun _ => rfl)
    next c f hf =>
      have hc : (t.fleet.allocate t.fleet.accepts now).1 = some c := by rw [hf]
      have hselect : Step now (.select n area) t (.bind n area c)
        { t with fleet := (t.fleet.allocate t.fleet.accepts now).2 } := .select _ hc
      rwa [hf] at hselect
  | bind n area c =>
    refine .bind (fun u => ?_) ?_
    · simp only [Stage.next]
      cases (t.object n).displaced c.username <;> simp [Stage.holds]
    · simp only [Stage.next]
      cases (t.object n).displaced c.username <;> simp [Stage.sessions]
  | unbind n =>
    refine .take (.inl rfl) (fun u => ?_) ?_
    · simp only [Stage.next]
      cases (t.object n).username <;> simp [Stage.holds]
    · simp only [Stage.next]
      cases (t.object n).username <;> simp [Stage.sessions]
  | leave n =>
    have hk : KeepsAccount (·.unbindArea) := ⟨fun _ => rfl, fun _ => rfl, fun _ => rfl⟩
    refine .work (.of_modify hk n (fun u => ?_) ?_ fun _ => rfl)
    · simp only [Stage.next]
      cases (t.object n).area <;> rfl
    · simp only [Stage.next]
      cases (t.object n).area <;> simp [Stage.sessions]
  | findDevice worker =>
    simp only [Stage.next]
    split <;> exact .work (.of_same (fun _ => rfl) (nothing _) fun _ => rfl)
  | clearDevice worker =>
    exact .work (.of_notes (Fleet.notes_persist _ _) (fun _ => rfl) (nothing _) fun _ => rfl)
  | name n r => exact .work (.of_same (fun _ => rfl) (List.Subset.refl _) fun _ => rfl)
  | level n r named =>
    have hsame : Works (.level n r named) t (.count n r.methods named) t :=
      .of_same (fun _ => rfl) (List.Subset.refl _) fun _ => rfl
    simp only [Stage.next]
    split
    next u =>
      split
      · exact .work (.of_notes (Fleet.notes_setLevel _ _ _) (fun _ => rfl) (List.Subset.refl _)
          fun _ => rfl)
      · exact .work hsame
    next => exact .work hsame
  | count n kinds named =>
    simp only [Stage.next]
    split
    · have hk : KeepsAccount fun x => { x with usage := .zero } :=
        ⟨fun _ => rfl, fun _ => rfl, fun _ => rfl⟩
      exact .work (.of_modify hk n (fun _ => rfl) (List.Subset.refl _) fun _ => rfl)
    · have hk : KeepsAccount fun x => { x with usage := (t.object n).usage.record kinds } :=
        ⟨fun _ => rfl, fun _ => rfl, fun _ => rfl⟩
      exact .work (.of_modify hk n (fun _ => rfl) (nothing _) fun _ => rfl)
  | trip n named =>
    refine .take (.inr ⟨named, rfl⟩) (fun u => ?_) ?_
    · simp only [Stage.next]
      cases (t.object n).username <;> cases named <;> simp [Stage.holds]
    · simp only [Stage.next]
      cases (t.object n).username <;> cases named <;> simp [Stage.sessions]
  | disable u held =>
    refine .work (.of_notes (Fleet.notes_markDisabled _ _ _) (fun v => ?_) ?_ fun _ => rfl)
    · cases held <;> simp [Stage.holds, Stage.next]
    · cases held <;> simp [Stage.sessions, Stage.next]
  | giveBack u next => exact .release
  | cut area next => exact .work (.of_recalculate hd area next now)
  | storeDevice n answer =>
    exact .work (.of_notes (Fleet.notes_persist _ _) (fun _ => rfl) (nothing _) fun _ => rfl)
  | done answer => exact .work (.of_same (fun _ => rfl) (nothing _) fun _ => rfl)

end

end ScanFleet.Traffic
