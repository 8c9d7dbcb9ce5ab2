import ArchiveSearch.Matching.Candidate
import ArchiveSearch.Matching.Record
import ArchiveSearch.Matching.Visibility

/-!
# Visibility passes

A pass first judges all elements of a document and notes the verdicts in a visibility map, and then
switches every element to what the map says at its position. The two halves stand on their own: a
map can be applied that comes from elsewhere, and then an element without an assignment stays as it
is and is reported. What a map does is said position by position: `applyVisibility_elements` for the
elements, `applyVisibility_records` for the reports, and `get?_computeVisibility` for what the map
of a pass assigns.
-/

namespace ArchiveSearch

/-- Judges the elements of a document. Gives the visibility map, and the elements after they have
been looked at. -/
def computeVisibility {α : Type} [Candidate α] (filters : List Filter) (elements : List α) :
    Visibility × List α :=
  let judged := elements.map (judge filters)
  (.ofFlags (judged.map (·.1)), judged.map (·.2))

/-- The map of a pass assigns to every position of the document the verdict on the element there. -/
theorem get?_computeVisibility {α : Type} [Candidate α] (filters : List Filter)
    (elements : List α) (position : Nat) :
    (computeVisibility filters elements).1.get? position =
      elements[position]?.map (isVisible filters) := by
  have hmap : (computeVisibility filters elements).1 =
      .ofFlags ((elements.map (judge filters)).map (·.1)) := rfl
  rw [hmap, Visibility.get?_ofFlags, List.map_map, List.getElem?_map]
  rfl

variable {α : Type} [Toggle α]

/-- Switches the elements of a list whose first element has the position `start`. -/
def applyVisibilityFrom (map : Visibility) (start : Nat) : List α → List α × List Record
  | [] => ([], [])
  | element :: elements =>
      let (switched, records) := applyVisibilityFrom map (start + 1) elements
      match map.get? start with
      | some shown => (Toggle.setVisible element shown :: switched, records)
      | none => (element :: switched, .unassigned start :: records)

/-- Switches every element of a document that a visibility map assigns, and reports the others. -/
def applyVisibility (map : Visibility) (elements : List α) : List α × List Record :=
  applyVisibilityFrom map 0 elements

/-- Shows the elements that some filters leave visible and hides all others. -/
def applyFilters (filters : List Filter) (elements : List α) : List α × List Record :=
  let (map, judged) := computeVisibility filters elements
  let (switched, records) := applyVisibility map judged
  (switched, records ++ [.applied filters.length map.shownCount map.size])

/-- What a map makes of an element at a position: an element that is assigned nothing stays. -/
def Visibility.switch (map : Visibility) (position : Nat) (element : α) : α :=
  (map.get? position).elim element (Toggle.setVisible element)

/-- One step of the traversal. -/
theorem applyVisibilityFrom_cons (map : Visibility) (start : Nat) (element : α)
    (elements : List α) :
    applyVisibilityFrom map start (element :: elements) =
      (map.switch start element :: (applyVisibilityFrom map (start + 1) elements).1,
        if (map.get? start).isNone then
          .unassigned start :: (applyVisibilityFrom map (start + 1) elements).2
        else (applyVisibilityFrom map (start + 1) elements).2) := by
  rw [applyVisibilityFrom, Visibility.switch]
  cases map.get? start <;> rfl

/-- Whatever is observed of the elements afterwards, each was switched at its own position. -/
theorem map_applyVisibilityFrom {β : Type} (observe : α → β) (map : Visibility) (start : Nat)
    (elements : List α) :
    (applyVisibilityFrom map start elements).1.map observe =
      elements.mapIdx fun position element => observe (map.switch (start + position) element) := by
  induction elements generalizing start with
  | nil => rfl
  | cons element elements ih =>
      rw [applyVisibilityFrom_cons, List.map_cons, ih, List.mapIdx_cons]
      simp only [Nat.add_zero, Nat.add_assoc, Nat.add_comm 1]

/-- The positions that the map leaves open are recorded in ascending order. -/
theorem applyVisibilityFrom_records (map : Visibility) (start : Nat) (elements : List α) :
    (applyVisibilityFrom map start elements).2 =
      ((List.range' start elements.length).filter fun position =>
        (map.get? position).isNone).map .unassigned := by
  induction elements generalizing start with
  | nil => rfl
  | cons element elements ih =>
      rw [applyVisibilityFrom_cons, ih, List.length_cons, List.range'_succ, List.filter_cons]
      split <;> rfl

theorem map_applyVisibility {β : Type} (observe : α → β) (map : Visibility) (elements : List α) :
    (applyVisibility map elements).1.map observe =
      elements.mapIdx fun position element => observe (map.switch position element) := by
  have h := map_applyVisibilityFrom observe map 0 elements
  simp only [Nat.zero_add] at h
  exact h

/-- Every element is switched by what the map says at its position. -/
theorem applyVisibility_elements (map : Visibility) (elements : List α) :
    (applyVisibility map elements).1 = elements.mapIdx map.switch := by
  have h := map_applyVisibility id map elements
  rwa [List.map_id] at h

/-- The elements without an assignment are reported, in their order, and no position beyond them. -/
theorem applyVisibility_records (map : Visibility) (elements : List α) :
    (applyVisibility map elements).2 =
      ((List.range elements.length).filter fun position =>
        (map.get? position).isNone).map .unassigned := by
  rw [List.range_eq_range']
  exact applyVisibilityFrom_records map 0 elements

end ArchiveSearch
