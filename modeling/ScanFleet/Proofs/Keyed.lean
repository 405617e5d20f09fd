import Mathlib.Data.List.Nodup

/-! Lists whose elements are found by a key.  Where no key occurs twice, such a list is a finite
map: an element is found under its own key, and a change that keeps the keys acts on what is
found. -/

namespace ScanFleet.Keyed

theorem eq_of_key {α κ : Type} {k : α → κ} {l : List α} (h : (l.map k).Nodup) {x y : α}
    (hx : x ∈ l) (hy : y ∈ l) (he : k x = k y) : x = y :=
  List.inj_on_of_nodup_map h hx hy he

theorem countP_le_one {α : Type} {l : List α} {p : α → Bool} (hl : l.Nodup)
    (h : ∀ x ∈ l, ∀ y ∈ l, p x → p y → x = y) : l.countP p ≤ 1 := by
  rw [List.countP_eq_length_filter]
  match hf : l.filter p with
  | [] => exact Nat.zero_le 1
  | [x] => exact Nat.le_refl 1
  | x :: y :: rest =>
    have hn := hl.filter p
    have hmem : ∀ z ∈ l.filter p, z ∈ l ∧ p z := fun z hz => List.mem_filter.mp hz
    rw [hf] at hn hmem
    obtain ⟨hx, hpx⟩ := hmem x (by simp)
    obtain ⟨hy, hpy⟩ := hmem y (by simp)
    have he := h x hx y hy hpx hpy
    simp [he] at hn

/-- A list around one of its elements, which may be replaced. -/
theorem split_of_getElem? {α : Type} {l : List α} {i : Nat} {x : α} (h : l[i]? = some x) :
    ∃ before later, l = before ++ x :: later ∧ ∀ y, l.set i y = before ++ y :: later := by
  obtain ⟨hi, rfl⟩ := List.getElem?_eq_some_iff.mp h
  have hset (y : α) : l.set i y = l.take i ++ y :: l.drop (i + 1) := by
    rw [List.set_eq_take_append_cons_drop, if_pos hi]
  refine ⟨l.take i, l.drop (i + 1), ?_, hset⟩
  rw [← hset, List.set_getElem_self]

variable {α κ : Type} [DecidableEq κ] {k : α → κ}

theorem key_of_find? {l : List α} {v : κ} {x : α} (h : l.find? (k · = v) = some x) : k x = v := by
  simpa using List.find?_some h

theorem isSome_find?_iff {l : List α} {v : κ} : (l.find? (k · = v)).isSome ↔ v ∈ l.map k := by
  simp [List.find?_isSome, List.mem_map]

theorem find?_eq_some_iff {l : List α} (h : (l.map k).Nodup) {v : κ} {x : α} :
    l.find? (k · = v) = some x ↔ x ∈ l ∧ k x = v := by
  refine ⟨fun hf => ⟨List.mem_of_find?_eq_some hf, key_of_find? hf⟩, ?_⟩
  rintro ⟨hx, rfl⟩
  obtain ⟨y, hy⟩ := Option.isSome_iff_exists.mp
    (isSome_find?_iff.mpr (List.mem_map_of_mem (f := k) hx))
  rw [hy, eq_of_key h (List.mem_of_find?_eq_some hy) hx (key_of_find? hy)]

/-- A change of the elements that keeps their keys acts on what is found. -/
theorem find?_map {g : α → α} (hg : ∀ x, k (g x) = k x) (l : List α) (v : κ) :
    (l.map g).find? (k · = v) = (l.find? (k · = v)).map g := by
  rw [List.find?_map]
  congr 2
  funext x
  simp [hg]

/-- A change of the element under one key changes how many elements have a property by that one. -/
theorem countP_change (p : α → Bool) (g : α → α) {l : List α} (h : (l.map k).Nodup) {x : α}
    (hx : x ∈ l) :
    (l.map fun y => if k y = k x then g y else y).countP p + (if p x then 1 else 0) =
      l.countP p + (if p (g x) then 1 else 0) := by
  induction l with
  | nil => cases hx
  | cons y l ih =>
    obtain ⟨hy, hl⟩ := List.nodup_cons.mp h
    simp only [List.map_cons, List.countP_cons]
    rcases List.mem_cons.mp hx with rfl | hx
    · -- No other element has this key.
      have hrest : (l.map fun y => if k y = k x then g y else y) = l := by
        conv => rhs; rw [← List.map_id l]
        refine List.map_congr_left fun z hz => ?_
        rw [if_neg fun he => hy (List.mem_map.mpr ⟨z, hz, he⟩), id]
      rw [hrest, if_pos rfl]
      omega
    · have hne : k y ≠ k x := fun he => hy (List.mem_map.mpr ⟨x, hx, he.symm⟩)
      have hrest := ih hl hx
      rw [if_neg hne]
      omega

end ScanFleet.Keyed
