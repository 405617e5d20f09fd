import ScanFleet.Proofs.Fleet.Roster
import ScanFleet.Proofs.Session.Rotation

/-! What a recalculation makes of an area and of the sessions that it is called with.  They are any
workers, live ones and others in any order, whatever parts they held before. -/

namespace ScanFleet

/-- A new cut of the route of `a`, at the time `now` and for the workers `ids` of which `live` are
live, makes `a'` and `s'` of the area and the sessions. -/
structure Area.Cut (a : Area) (s : Sessions) (ids live : List String) (now : Instant) (a' : Area)
    (s' : Sessions) : Prop where
  /-- The parts go to the live workers in order; a next step that lies in the part is kept. -/
  parts : 0 < a.route.length → ∀ (i : Nat) (hi : i < live.length), ∃ x p,
    s.find? live[i] = some x ∧ (partition a.route.length live.length)[i]? = some p ∧
      s'.find? live[i] =
        some { x with walk := some ⟨p, if p.contains x.step then x.step else p.start⟩ }
  cleared : ∀ id ∈ ids, id ∉ live ∨ a.route.length = 0 →
    ∀ x, s'.find? id = some x → x.walk = none ∧ x.bounds = (0, 0, 0)
  onRoute : ∀ id ∈ ids, ∀ w, s'.walk? id = some w →
    w.Within ∧ w.part.start ≤ w.part.last ∧ w.part.last < a.route.length
  covered : ∀ k < a.route.length, ∃ id ∈ live, ∃ w, s'.walk? id = some w ∧ w.part.contains k
  elsewhere : ∀ id, id ∉ ids → s'.find? id = s.find? id
  /-- But for the walks nothing of the sessions changes. -/
  rest : { s' with list := s'.list.map .clearWalk } = { s with list := s.list.map .clearWalk }
  area : a' = if a.route.length = 0 then a else { a with partitioned := some now }

namespace Sessions

variable {s : Sessions} {ids : List String} {now : Instant} {unseen : Span} {steps : Nat}

/-- But for the walks a cut changes nothing. -/
theorem clear_partitionRoute (hids : ids.Nodup)
    (hlive : ids.filter (s.isLive · now unseen) ≠ []) :
    { (s.partitionRoute ids steps now unseen).2 with
        list := (s.partitionRoute ids steps now unseen).2.list.map .clearWalk } =
      { s with list := s.list.map .clearWalk } := by
  obtain ⟨list, hlist⟩ := s.exists_list_partitionRoute ids steps now unseen
  have hmap := list_partitionRoute_of_nodup hids hlive steps
  rw [hlist] at hmap ⊢
  dsimp only at hmap ⊢
  rw [hmap, List.map_map]
  congr 1
  refine List.map_congr_left fun x _ => ?_
  rw [Function.comp_apply]
  split
  · exact x.clearWalk_recut _ _
  · rfl

end Sessions

namespace Area

variable (a : Area) (s : Sessions) {ids live : List String} {now : Instant} {unseen : Span}

theorem cut_recalculate (hids : ids.Nodup) (hlive : ids.filter (s.isLive · now unseen) = live)
    (hne : live ≠ []) :
    a.Cut s ids live now (a.recalculate ids now unseen s).2.1
      (a.recalculate ids now unseen s).2.2 := by
  have hfind {id : String} (hid : id ∈ ids) :
      (a.recalculate ids now unseen s).2.2.find? id =
        (s.find? id).map (·.recut live a.route.length) :=
    Sessions.find?_partitionRoute_of_mem hids hlive hne hid _
  have hnodup : live.Nodup := hlive ▸ hids.filter _
  constructor
  case parts =>
    intro hroute i hi
    have hid := List.getElem_mem hi
    obtain ⟨hin, x, hx⟩ := Sessions.exists_find?_of_mem_live hlive hid
    have hrecut : x.recut live a.route.length = x.assign (part a.route.length live.length i) := by
      rw [Session.recut, Sessions.id_of_find? hx, if_pos ⟨hid, hroute⟩, hnodup.idxOf_getElem i hi]
    refine ⟨x, part a.route.length live.length i, hx, ?_, ?_⟩
    · rw [partition, if_neg (by omega), List.getElem?_map, List.getElem?_range hi]
      rfl
    · rw [hfind hin, hx, Option.map_some, hrecut, Session.assign_eq]
  case cleared =>
    intro id hid hstale y hy
    rw [hfind hid] at hy
    obtain ⟨x, hx, rfl⟩ := Option.map_eq_some_iff.mp hy
    have hwalk : (x.recut live a.route.length).walk = none := by
      rw [Session.recut, Sessions.id_of_find? hx, if_neg]
      · rfl
      · rintro ⟨hl, hroute⟩
        rcases hstale with h | h
        · exact h hl
        · omega
    exact ⟨hwalk, Session.bounds_of_walk_eq_none hwalk⟩
  case onRoute =>
    intro id hid w hw
    rw [Sessions.walk?, hfind hid] at hw
    obtain ⟨y, hy, hw⟩ := Option.bind_eq_some_iff.mp hw
    obtain ⟨x, -, rfl⟩ := Option.map_eq_some_iff.mp hy
    obtain ⟨-, hin, -, hlast⟩ := Session.walk_recut hw
    exact ⟨hin, Nat.le_trans hin.1 hin.2, hlast⟩
  case covered =>
    intro k hk
    obtain ⟨i, hi, hc⟩ := exists_part_contains (List.length_pos_iff.mpr hne) hk
    have hid := List.getElem_mem hi
    obtain ⟨old, hold⟩ := Sessions.walk?_partitionRoute hids (Nat.zero_lt_of_lt hk) hlive hid
    refine ⟨live[i], hid, _, hold, ?_⟩
    rwa [Walk.part_assign, hnodup.idxOf_getElem i hi]
  case elsewhere =>
    exact fun id hid => Sessions.find?_partitionRoute_of_not_mem hids (hlive ▸ hne) hid _
  case rest => exact Sessions.clear_partitionRoute hids (hlive ▸ hne)
  case area =>
    have hpos : live.length ≠ 0 := by simpa using hne
    simp only [recalculate, Sessions.fst_partitionRoute, hlive, hpos, false_or,
      List.isEmpty_iff, List.length_eq_zero_iff]

/-- A recalculation reports how many workers are live.  It changes nothing when there are none, and
else it is a new cut of the route. -/
theorem recalculate_spec (hids : ids.Nodup) :
    let live := ids.filter (s.isLive · now unseen)
    let r := a.recalculate ids now unseen s
    r.1 = live.length ∧ (live = [] → r.2 = (a, s)) ∧
      (live ≠ [] → a.Cut s ids live now r.2.1 r.2.2) := by
  intro live r
  refine ⟨s.fst_partitionRoute ids a.route.length now unseen, fun hlive => ?_,
    a.cut_recalculate s hids rfl⟩
  simp only [r, recalculate, Sessions.partitionRoute_of_no_live hlive, true_or, if_true]

end Area

/-- The sessions of `threeSessions` in an area, each in the same part of an earlier cut. -/
def heldParts : Sessions :=
  { threeSessions with
    list := threeSessions.list.map ({ · with area := some 0, walk := some ⟨⟨1, 4⟩, 2⟩ }) }

/-- The first worker goes on from step 2, the last one begins its part, the one between has none. -/
theorem recalculate_spec_heldParts :
    let ids := ["ada", "bob", "cyd"]
    let r := fiveSteps.recalculate ids 12 5 heldParts
    ids.Nodup ∧ r.1 = 2 ∧
      fiveSteps.Cut heldParts ids (ids.filter (heldParts.isLive · 12 5)) 12 r.2.1 r.2.2 ∧
      ids.map r.2.2.walk? = [some ⟨⟨0, 2⟩, 2⟩, none, some ⟨⟨3, 4⟩, 3⟩] :=
  ⟨by decide, by decide, (fiveSteps.recalculate_spec heldParts (by decide)).2.2 (by decide),
    by decide⟩

end ScanFleet
