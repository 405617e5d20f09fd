import Mathlib.Data.List.Forall2
import ScanFleet.Geo.Fence
import ScanFleet.Geo.Route

/-! Coordinates, locations and routes up to the comparison of coordinates.  The comparison holds of
no coordinate that is not a number, so a route with such a coordinate differs from itself.  What is
copied from such a route is the same route all the same. -/

namespace ScanFleet

theorem beq_self_eq (x : Float) : (x == x) = !x.isNaN := by
  change Float.Model.UnpackedFloat.beq _ _ = !Float.Model.UnpackedFloat.isNaN _
  generalize x.toModel.unpack = u
  cases u with
  | infinity sign => cases sign <;> rfl
  | notANumber => rfl
  | zero sign => rfl
  | finite sign mantissa exponent hpos =>
    have hself : (compare exponent exponent).then (compare mantissa mantissa) = .eq := by
      have hexponent : compare exponent exponent = .eq := Std.ReflCmp.compare_self
      have hmantissa : compare mantissa mantissa = .eq := Std.ReflCmp.compare_self
      rw [hexponent, hmantissa]
      rfl
    cases sign with
    | positive =>
      change (some ((compare exponent exponent).then (compare mantissa mantissa)) ==
        some Ordering.eq) = true
      rw [hself]
      rfl
    | negative =>
      change (some ((compare exponent exponent).then (compare mantissa mantissa)).swap ==
        some Ordering.eq) = true
      rw [hself]
      rfl

theorem beq_of_isNaN {x y : Float} (h : y.isNaN) : (x == y) = false := by
  change Float.Model.UnpackedFloat.beq _ _ = false
  change Float.Model.UnpackedFloat.isNaN _ = true at h
  generalize y.toModel.unpack = v at h ⊢
  generalize x.toModel.unpack = u
  cases v with
  | notANumber => cases u <;> rfl
  | infinity | zero | finite => cases h

/-- `x` has the value of `y`, or is `y` where that is not a number. -/
def SameCoordinate (x y : Float) : Prop := x == y ∨ y.isNaN ∧ x = y

namespace SameCoordinate

theorem refl (x : Float) : SameCoordinate x x := by
  cases h : x.isNaN with
  | true => exact .inr ⟨h, rfl⟩
  | false => exact .inl (by rw [beq_self_eq, h]; rfl)

theorem beq_eq {x y : Float} (h : SameCoordinate x y) : (x == y) = !y.isNaN := by
  rcases h with h | ⟨hnan, rfl⟩
  · cases hy : y.isNaN with
    | true => rw [beq_of_isNaN hy] at h; cases h
    | false => exact h
  · exact beq_self_eq x

end SameCoordinate

namespace Location

def isNaN (l : Location) : Bool := l.latitude.isNaN || l.longitude.isNaN

def Same (l m : Location) : Prop :=
  SameCoordinate l.latitude m.latitude ∧ SameCoordinate l.longitude m.longitude

theorem beq_def (l m : Location) :
    (l == m) = (l.latitude == m.latitude && l.longitude == m.longitude) := rfl

theorem Same.refl (l : Location) : l.Same l := ⟨.refl _, .refl _⟩

theorem Same.of_beq {l m : Location} (h : l == m) : l.Same m := by
  rw [beq_def, Bool.and_eq_true] at h
  exact ⟨.inl h.1, .inl h.2⟩

theorem Same.beq_eq {l m : Location} (h : l.Same m) : (l == m) = !m.isNaN := by
  rw [beq_def, h.1.beq_eq, h.2.beq_eq, isNaN, Bool.not_or]

end Location

namespace Route

/-- Whether some coordinate is not a number. -/
def hasNaN (r : Route) : Bool := r.any Location.isNaN

/-- The routes have the same steps. -/
def Same (r s : Route) : Prop := List.Forall₂ Location.Same r s

namespace Same

theorem refl (r : Route) : Same r r := List.forall₂_same.mpr fun l _ => .refl l

theorem of_beq {r s : Route} (h : r == s) : Same r s := by
  induction r generalizing s with
  | nil =>
    cases s with
    | nil => exact refl []
    | cons m s => cases h
  | cons l r ih =>
    cases s with
    | nil => cases h
    | cons m s =>
      rw [List.cons_beq_cons, Bool.and_eq_true] at h
      exact List.Forall₂.cons (.of_beq h.1) (ih h.2)

theorem beq_eq {r s : Route} (h : Same r s) : (r == s) = !s.hasNaN := by
  induction h with
  | nil => rfl
  | cons hl hr ih =>
    rw [List.cons_beq_cons, hl.beq_eq, ih, hasNaN, hasNaN, List.any_cons, Bool.not_or]

theorem length_eq {r s : Route} (h : Same r s) : r.length = s.length := List.Forall₂.length_eq h

/-- A route that is taken over where it differs is the one taken over. -/
theorem taken (r s : Route) : Same (if r != s then s else r) s := by
  split
  next => exact refl s
  next h => exact of_beq (by simpa [bne] using h)

end Same

end Route

namespace Fence

def Same (f g : Fence) : Prop := Route.Same f.points g.points

theorem Same.refl (f : Fence) : f.Same f := Route.Same.refl _

theorem Same.beq_eq {f g : Fence} (h : f.Same g) : (f == g) = !Route.hasNaN g.points :=
  Route.Same.beq_eq h

theorem Same.taken (f g : Fence) : Same (if f != g then g else f) g := by
  split
  next => exact refl g
  next h =>
    have heq : (f == g) = true := by simpa [bne] using h
    exact Route.Same.of_beq heq

end Fence

end ScanFleet
