import ArchiveSearch.Matching.Pass
import ArchiveSearch.Page.Entry

/-!
# What a visibility pass does

A pass decides first and switches afterwards, by way of a map from positions to verdicts. What comes
of it is said without the map: every element is judged and switched to its own verdict
(`applyFilters_elements`). The verdict on an entry depends on its two texts alone, so a pass over
entries leaves nothing of an earlier one (`applyFilters_applyFilters`).
-/

namespace ArchiveSearch

section

variable {α : Type} [Toggle α]

/-- An element after some filters have judged it and it has been switched to their verdict. -/
def switched (filters : List Filter) (element : α) : α :=
  Toggle.setVisible (judge filters element).2 (judge filters element).1

/-- The map of a pass leaves no element without a verdict. -/
theorem applyVisibility_computeVisibility (filters : List Filter) (elements : List α) :
    applyVisibility (computeVisibility filters elements).1 (computeVisibility filters elements).2 =
      (elements.map (switched filters), []) := by
  have hget := get?_computeVisibility filters elements
  have hjudged : (computeVisibility filters elements).2 =
      elements.map fun element => (judge filters element).2 := List.map_map
  apply Prod.ext
  · rw [applyVisibility_elements, hjudged]
    apply List.ext_getElem?
    intro position
    rw [List.getElem?_mapIdx, List.getElem?_map, List.getElem?_map, Option.map_map]
    cases helement : elements[position]? with
    | none => rfl
    | some element =>
        simp only [Option.map_some, Function.comp_apply, Visibility.switch, hget, helement]
        rfl
  · rw [applyVisibility_records, hjudged, List.length_map]
    have hnone : ∀ position ∈ List.range elements.length,
        ¬ ((computeVisibility filters elements).1.get? position).isNone = true := by
      intro position hposition
      rw [hget, List.getElem?_eq_getElem (List.mem_range.mp hposition)]
      exact Bool.false_ne_true
    rw [List.filter_eq_nil_iff.mpr hnone]
    rfl

/-- A pass switches every element to its own verdict, wherever it stands. -/
theorem applyFilters_elements (filters : List Filter) (elements : List α) :
    (applyFilters filters elements).1 = elements.map (switched filters) := by
  have h := applyVisibility_computeVisibility filters elements
  unfold applyFilters
  simp only [h]

/-- The counts in the log, which are taken from the map, are those of the elements. -/
theorem applyFilters_records (filters : List Filter) (elements : List α) :
    (applyFilters filters elements).2 =
      [.applied filters.length (elements.countP (isVisible filters)) elements.length] := by
  have h := applyVisibility_computeVisibility filters elements
  have hmap : (computeVisibility filters elements).1 =
      .ofFlags ((elements.map (judge filters)).map (·.1)) := rfl
  unfold applyFilters
  simp only [h, List.nil_append]
  rw [hmap, Visibility.shownCount_ofFlags, Visibility.size_ofFlags, List.length_map,
    List.length_map, List.countP_map, List.countP_map]
  rfl

end

/-- Looking at an entry changes nothing, so only the verdict comes of judging it. -/
theorem judge_entry (filters : List Filter) (entry : Entry) :
    judge filters entry = (isVisible filters entry, entry) := by
  induction filters with
  | nil => rfl
  | cons filter filters ih =>
      unfold isVisible at *
      rw [judge]
      split
      · exact ih
      · rfl

/-- The verdict on an entry does not ask whether the entry is shown. -/
theorem isVisible_with_visible (filters : List Filter) (entry : Entry) (visible : Bool) :
    isVisible filters { entry with visible := visible } = isVisible filters entry := by
  rw [isVisible_eq_all, isVisible_eq_all]
  rfl

/-- A pass over entries writes down for each whether the filters leave it visible. -/
theorem applyFilters_entries (filters : List Filter) (entries : List Entry) :
    (applyFilters filters entries).1 =
      entries.map fun entry => { entry with visible := isVisible filters entry } := by
  rw [applyFilters_elements]
  apply List.map_congr_left
  intro entry _
  rw [switched, judge_entry]
  rfl

/-- A pass over entries undoes the one before it. -/
theorem applyFilters_applyFilters (filters earlier : List Filter) (entries : List Entry) :
    (applyFilters filters (applyFilters earlier entries).1).1 =
      (applyFilters filters entries).1 := by
  rw [applyFilters_entries earlier, applyFilters_entries, applyFilters_entries, List.map_map]
  apply List.map_congr_left
  intro entry _
  simp only [Function.comp_apply, isVisible_with_visible]

/-- A pass without filters leaves entries alone that are all shown. -/
theorem applyFilters_nil_of_shown {entries : List Entry}
    (hshown : ∀ entry ∈ entries, entry.visible = true) :
    (applyFilters [] entries).1 = entries := by
  have hfixed : ∀ entry ∈ entries,
      { entry with visible := isVisible [] entry } = id entry := by
    intro entry hentry
    have hvisible : isVisible [] entry = entry.visible := (hshown entry hentry).symm
    rw [hvisible]
    rfl
  rw [applyFilters_entries, List.map_congr_left hfixed, List.map_id]

end ArchiveSearch
