import ScanFleet.Geo.Location

/-! Fences: outlines of areas, written with or without their first point repeated at the end.  A
point is inside when a ray from it crosses the outline an odd number of times; points outside the
bounding box are never inside. -/

namespace ScanFleet

/-- The lesser of two coordinates and the second of equal ones.  One that is not a number gives way
to the other. -/
def lesser (a b : Float) : Float := if a < b || b.isNaN then a else b

/-- The greater of two coordinates and the second of equal ones.  One that is not a number gives way
to the other. -/
def greater (a b : Float) : Float := if a > b || b.isNaN then a else b

/-- A range of latitudes and a range of longitudes, ends included. -/
structure Box where
  minLatitude : Float
  maxLatitude : Float
  minLongitude : Float
  maxLongitude : Float

/-- The box that holds one point. -/
def Box.ofPoint (l : Location) : Box := ⟨l.latitude, l.latitude, l.longitude, l.longitude⟩

/-- The box extended to hold a point. -/
def Box.extend (b : Box) (l : Location) : Box where
  minLatitude := lesser b.minLatitude l.latitude
  maxLatitude := greater b.maxLatitude l.latitude
  minLongitude := lesser b.minLongitude l.longitude
  maxLongitude := greater b.maxLongitude l.longitude

def Box.centre (b : Box) : Location where
  latitude := (b.maxLatitude + b.minLatitude) / 2
  longitude := (b.maxLongitude + b.minLongitude) / 2

def Box.contains (b : Box) (l : Location) : Bool :=
  b.minLatitude ≤ l.latitude && l.latitude ≤ b.maxLatitude &&
    b.minLongitude ≤ l.longitude && l.longitude ≤ b.maxLongitude

/-- An outline, open or closed. -/
structure Fence where
  points : List Location
deriving BEq, Inhabited

def Fence.isEmpty (f : Fence) : Bool := f.points.isEmpty

/-- The least box that holds every point of the outline. -/
def Fence.box? (f : Fence) : Option Box :=
  match f.points with
  | [] => none
  | p :: ps => some (ps.foldl Box.extend (.ofPoint p))

def Fence.centre? (f : Fence) : Option Location := f.box?.map Box.centre

/-- The outline with its first point repeated at the end, unless it ends there already. -/
def Fence.closed (f : Fence) : List Location :=
  match f.points.head?, f.points.getLast? with
  | some first, some last => if first != last then f.points ++ [first] else f.points
  | _, _ => f.points

/-- An outline that ends where it begins is closed as it is; any other gets its first point at the
end. -/
theorem Fence.closed_cases (f : Fence) :
    (f.closed = f.points ∧
      ∀ first ∈ f.points.head?, ∀ last ∈ f.points.getLast?, first == last) ∨
    ∃ first ∈ f.points.head?, f.closed = f.points ++ [first] ∧
      ∀ last ∈ f.points.getLast?, first != last := by
  unfold closed
  split
  next first last hfirst hlast =>
    rw [hfirst, hlast]
    split
    next hne =>
      refine .inr ⟨first, rfl, rfl, ?_⟩
      rintro _ ⟨⟩
      exact hne
    next heq =>
      refine .inl ⟨rfl, ?_⟩
      rintro _ ⟨⟩ _ ⟨⟩
      simpa [bne] using heq
  next hnone =>
    exact .inl ⟨rfl, fun first hfirst last hlast => absurd hlast (hnone first last hfirst)⟩

/-- A closed outline ends where it begins: at that very point, or at one with equal coordinates. -/
theorem Fence.ends_closed {f : Fence} {first last : Location} (hfirst : first ∈ f.closed.head?)
    (hlast : last ∈ f.closed.getLast?) : last = first ∨ first == last := by
  rcases f.closed_cases with ⟨hclosed, hends⟩ | ⟨p, hp, hclosed, -⟩
  · rw [hclosed] at hfirst hlast
    exact .inr (hends first hfirst last hlast)
  · rw [hclosed, List.head?_append, Option.mem_def.mp hp] at hfirst
    rw [hclosed, List.getLast?_concat] at hlast
    cases hfirst
    cases hlast
    exact .inl rfl

/-- The edges of the outline: each point with the one before it, the first with the last. -/
def edges (points : List Location) : List (Location × Location) :=
  match points.getLast? with
  | none => []
  | some last => points.zip (last :: points)

/-- The latitude at which the line through an edge meets the meridian of a point. -/
def crossing (a b l : Location) : Float :=
  (b.latitude - a.latitude) * (l.longitude - a.longitude) / (b.longitude - a.longitude) + a.latitude

/-- Whether the ray from a point to the north crosses an edge. -/
def crosses (l : Location) (edge : Location × Location) : Bool :=
  let (a, b) := edge
  ((a.longitude > l.longitude : Bool) != (b.longitude > l.longitude : Bool)) &&
    l.latitude < crossing a b l

/-- Whether a list holds an odd number of `true`. -/
def oddCount (l : List Bool) : Bool := l.foldl xor false

/-- Whether a point is inside an outline, which takes at least three points to hold anything. -/
def Fence.contains (f : Fence) (l : Location) : Bool :=
  3 ≤ f.points.length && (f.box?.all (·.contains l)) && oddCount ((edges f.points).map (crosses l))

end ScanFleet
