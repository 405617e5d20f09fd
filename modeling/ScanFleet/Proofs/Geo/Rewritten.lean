import ScanFleet.Proofs.Decimal.Rewritten
import ScanFleet.Proofs.Geo.Written

/-! Routes that are stored, loaded and stored again.  The second text is the first one, so whatever
a route loses by being stored it loses the first time. -/

namespace ScanFleet

open Decimal

theorem CoordinateStoredAs.coordinateText_eq {x y : Float} (h : CoordinateStoredAs x y) :
    coordinateText y = coordinateText x :=
  fixed_of_read?_fixed (by decide) (by decide) h.read

theorem Location.StoredAs.stepText_eq {l m : Location} (h : l.StoredAs m) :
    stepText m = stepText l := by
  rw [stepText, stepText, h.latitude.coordinateText_eq, h.longitude.coordinateText_eq]

theorem Route.text_eq_of_storedAs {r s : Route} (h : List.Forall₂ Location.StoredAs r s) :
    Route.text s = Route.text r := by
  have hsteps : s.map stepText = r.map stepText := by
    induction h with
    | nil => rfl
    | cons hstored _ ih => rw [List.map_cons, List.map_cons, hstored.stepText_eq, ih]
  rw [Route.text, Route.text, hsteps]

/-- Every route can be stored and loaded.  What is loaded has as many steps, each coordinate of
which is what the text of that coordinate with six decimal places stands for; and it is stored as
the same text, so loading it again gives the same route. -/
theorem Route.text_settles (r : Route) :
    ∃ s, Route.read (Route.text r) = .ok s ∧ s.length = r.length ∧
      List.Forall₂ Location.StoredAs r s ∧ Route.text s = Route.text r ∧
      Route.read (Route.text s) = .ok s := by
  obtain ⟨s, hs, hstored⟩ := Route.exists_read_text r
  have htext := Route.text_eq_of_storedAs hstored
  exact ⟨s, hs, hstored.length_eq.symm, hstored, htext, by rw [htext, hs]⟩

end ScanFleet
