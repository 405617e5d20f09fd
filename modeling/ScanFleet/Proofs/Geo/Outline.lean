import Mathlib.Data.List.Rotate
import ScanFleet.Proofs.Geo.Order

/-! Fences and the ways to write their outlines.  The box around an outline depends on which points
there are alone, and whether a ray crosses the outline an odd number of times depends on the edges
and not on their order.  An outline that begins at another point has the same points and edges, and
one that is closed has only an edge from a point to itself more, which no ray crosses. -/

namespace ScanFleet

/-! ### Edges -/

theorem oddCount_of_perm {l m : List Bool} (h : l.Perm m) : oddCount l = oddCount m :=
  h.foldl_eq' (fun x _ y _ z => Bool.xor_right_comm z x y) false

theorem edges_concat (points : List Location) (p : Location) :
    edges (points ++ [p]) = (points ++ [p]).zip (p :: points) := by
  have hzip : (points ++ [p] ++ []).zip (p :: points ++ [p]) =
      (points ++ [p]).zip (p :: points) ++ [].zip [p] := List.zip_append (by simp)
  simpa [edges] using hzip

/-- Each point is paired with the one before it, which is the outline turned round to its last
point. -/
theorem edges_eq_zip_rotate (points : List Location) :
    edges points = points.zip (points.rotate (points.length - 1)) := by
  rcases List.eq_nil_or_concat points with rfl | ⟨init, p, rfl⟩
  · rfl
  · rw [List.concat_eq_append, edges_concat, List.length_append, List.length_singleton,
      Nat.add_sub_cancel, List.rotate_append_length_eq, List.singleton_append]

theorem edges_rotate (points : List Location) (k : Nat) :
    edges (points.rotate k) = (edges points).rotate k := by
  rw [edges_eq_zip_rotate, edges_eq_zip_rotate, List.length_rotate, List.rotate_rotate,
    Nat.add_comm, ← List.rotate_rotate]
  exact (List.zipWith_rotate_distrib Prod.mk _ _ k (List.length_rotate _ _).symm).symm

theorem edges_closed (p : Location) (points : List Location) :
    edges (p :: points ++ [p]) = (p, p) :: edges ((p :: points).rotate 1) := by
  rw [edges_concat, List.rotate_cons_succ, List.rotate_zero, edges_concat]
  rfl

theorem crosses_self (l p : Location) : crosses l (p, p) = false := by
  simp [crosses]

theorem oddCount_crosses_rotate (l : Location) (points : List Location) (k : Nat) :
    oddCount ((edges (points.rotate k)).map (crosses l)) =
      oddCount ((edges points).map (crosses l)) := by
  rw [edges_rotate]
  exact oddCount_of_perm ((List.rotate_perm _ k).map _)

theorem oddCount_crosses_closed (l p : Location) (points : List Location) :
    oddCount ((edges (p :: points ++ [p])).map (crosses l)) =
      oddCount ((edges (p :: points)).map (crosses l)) := by
  rw [edges_closed, List.map_cons, crosses_self]
  exact oddCount_crosses_rotate l (p :: points) 1

/-! ### Boxes -/

/-- To each side of a location, or level with it, there is some point. -/
structure Surrounded (points : List Location) (l : Location) : Prop where
  south : ∃ p ∈ points, p.latitude ≤ l.latitude
  north : ∃ p ∈ points, l.latitude ≤ p.latitude
  west : ∃ p ∈ points, p.longitude ≤ l.longitude
  east : ∃ p ∈ points, l.longitude ≤ p.longitude

theorem foldl_le_iff {f : Box → Float} {g : Location → Float}
    (hextend : ∀ b p, f (b.extend p) = lesser (f b) (g p)) (points : List Location) (b : Box)
    (x : Float) : f (points.foldl Box.extend b) ≤ x ↔ f b ≤ x ∨ ∃ p ∈ points, g p ≤ x := by
  induction points generalizing b with
  | nil => simp
  | cons p points ih =>
    rw [List.foldl_cons, ih, hextend, lesser_le_iff, or_assoc]
    simp

theorem le_foldl_iff {f : Box → Float} {g : Location → Float}
    (hextend : ∀ b p, f (b.extend p) = greater (f b) (g p)) (points : List Location) (b : Box)
    (x : Float) : x ≤ f (points.foldl Box.extend b) ↔ x ≤ f b ∨ ∃ p ∈ points, x ≤ g p := by
  induction points generalizing b with
  | nil => simp
  | cons p points ih =>
    rw [List.foldl_cons, ih, hextend, le_greater_iff, or_assoc]
    simp

theorem contains_box_iff (p : Location) (points : List Location) (l : Location) :
    (points.foldl Box.extend (.ofPoint p)).contains l ↔ Surrounded (p :: points) l := by
  have hsouth := foldl_le_iff (f := (·.minLatitude)) (fun _ _ => rfl) points (.ofPoint p) l.latitude
  have hnorth := le_foldl_iff (f := (·.maxLatitude)) (fun _ _ => rfl) points (.ofPoint p) l.latitude
  have hwest := foldl_le_iff (f := (·.minLongitude)) (fun _ _ => rfl) points (.ofPoint p)
    l.longitude
  have heast := le_foldl_iff (f := (·.maxLongitude)) (fun _ _ => rfl) points (.ofPoint p)
    l.longitude
  have hfirst (P : Location → Prop) : (P p ∨ ∃ q ∈ points, P q) ↔ ∃ q ∈ p :: points, P q := by
    simp
  simp only [Box.contains, Bool.and_eq_true, decide_eq_true_eq]
  rw [hsouth.trans (hfirst (·.latitude ≤ _)), hnorth.trans (hfirst (_ ≤ ·.latitude)),
    hwest.trans (hfirst (·.longitude ≤ _)), heast.trans (hfirst (_ ≤ ·.longitude))]
  exact ⟨fun ⟨⟨⟨hs, hn⟩, hw⟩, he⟩ => ⟨hs, hn, hw, he⟩, fun ⟨hs, hn, hw, he⟩ => ⟨⟨⟨hs, hn⟩, hw⟩, he⟩⟩

theorem Surrounded.of_subset {points others : List Location} {l : Location}
    (h : Surrounded points l) (hsub : points ⊆ others) : Surrounded others l where
  south := h.south.imp fun _ hp => ⟨hsub hp.1, hp.2⟩
  north := h.north.imp fun _ hp => ⟨hsub hp.1, hp.2⟩
  west := h.west.imp fun _ hp => ⟨hsub hp.1, hp.2⟩
  east := h.east.imp fun _ hp => ⟨hsub hp.1, hp.2⟩

namespace Fence

theorem contains_iff (f : Fence) (l : Location) :
    f.contains l ↔ 3 ≤ f.points.length ∧ Surrounded f.points l ∧
      oddCount ((edges f.points).map (crosses l)) := by
  obtain ⟨points⟩ := f
  cases points with
  | nil => simp [contains]
  | cons p points =>
    rw [contains, Bool.and_eq_true, Bool.and_eq_true, decide_eq_true_eq, and_assoc]
    exact and_congr_right fun _ => and_congr_left fun _ => contains_box_iff p points l

theorem contains_congr {points others : List Location} (l : Location)
    (hlength : 3 ≤ points.length ↔ 3 ≤ others.length) (hmem : ∀ p, p ∈ points ↔ p ∈ others)
    (hodd : oddCount ((edges points).map (crosses l)) = oddCount ((edges others).map (crosses l))) :
    (Fence.mk points).contains l = (Fence.mk others).contains l := by
  have hsurrounded : Surrounded points l ↔ Surrounded others l :=
    ⟨fun h => h.of_subset fun p => (hmem p).mp, fun h => h.of_subset fun p => (hmem p).mpr⟩
  rw [Bool.eq_iff_iff, contains_iff, contains_iff, hodd, hlength, hsurrounded]

theorem contains_rotate (points : List Location) (k : Nat) (l : Location) :
    (Fence.mk (points.rotate k)).contains l = (Fence.mk points).contains l :=
  contains_congr l (by rw [List.length_rotate]) (fun _ => List.mem_rotate)
    (oddCount_crosses_rotate l points k)

theorem contains_closed {f : Fence} (h : 3 ≤ f.points.length) (l : Location) :
    (Fence.mk f.closed).contains l = f.contains l := by
  obtain ⟨points⟩ := f
  rcases Fence.closed_cases ⟨points⟩ with ⟨hclosed, -⟩ | ⟨p, hp, hclosed, -⟩
  · rw [hclosed]
  · obtain ⟨points, rfl⟩ := List.head?_eq_some_iff.mp hp
    rw [hclosed]
    have hlength : 3 ≤ (p :: points ++ [p]).length := by
      rw [List.length_append]
      exact Nat.le_add_right_of_le h
    have hmem (q : Location) : q ∈ p :: points ++ [p] ↔ q ∈ p :: points := by
      rw [List.mem_append, List.mem_singleton]
      exact or_iff_left_of_imp fun hq => hq ▸ List.mem_cons_self
    exact contains_congr l (iff_of_true hlength h) hmem (oddCount_crosses_closed l p points)

/-- Whether a fence contains a location does not depend on whether its outline is closed, nor on the
point that the outline begins at. -/
theorem contains_outline {f : Fence} (h : 3 ≤ f.points.length) (l : Location) :
    (Fence.mk f.closed).contains l = f.contains l ∧
      ∀ k, (Fence.mk (f.points.rotate k)).contains l = f.contains l :=
  ⟨contains_closed h l, fun k => contains_rotate f.points k l⟩

/-- The outline of a square. -/
def square : Fence := ⟨[⟨0, 0⟩, ⟨0, 1⟩, ⟨1, 1⟩, ⟨1, 0⟩]⟩

/-- The square closed, and the square from its third corner on. -/
theorem contains_outline_square :
    3 ≤ square.points.length ∧ square.contains ⟨0.5, 0.5⟩ ∧
    square.closed.length = 5 ∧ (Fence.mk square.closed).contains ⟨0.5, 0.5⟩ ∧
    (Fence.mk (square.points.rotate 2)).contains ⟨0.5, 0.5⟩ := by
  have hin : square.contains ⟨0.5, 0.5⟩ := by decide +kernel
  obtain ⟨hclosed, hrotated⟩ := contains_outline (f := square) (by decide) ⟨0.5, 0.5⟩
  exact ⟨by decide, hin, by decide +kernel, hclosed.trans hin, (hrotated 2).trans hin⟩

end Fence

end ScanFleet
