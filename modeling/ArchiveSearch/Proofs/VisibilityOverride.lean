import ArchiveSearch.Matching.Pass
import ArchiveSearch.Matching.Probe

/-!
# Visibility maps override each other

A visibility map need not come from a pass over the elements that it is applied to: it may leave
some of them out, and it may name positions that none of them has. The traversal goes by the
elements, so what becomes of an element is settled by what is found at its position and by nothing
else in the map (`Visibility.switch`, `map_applyVisibility`). Of two maps applied one after the
other the flags therefore show the second where it assigns, and the first where only that one does,
which is what the override of the first by the second assigns.
-/

namespace ArchiveSearch

section

variable {α : Type} [Toggle α]

/-- Maps that agree on the positions of the elements do the same. -/
theorem applyVisibility_congr {map other : Visibility} {elements : List α}
    (h : ∀ position < elements.length, other.get? position = map.get? position) :
    applyVisibility other elements = applyVisibility map elements := by
  apply Prod.ext
  · rw [applyVisibility_elements, applyVisibility_elements, List.mapIdx_eq_mapIdx_iff]
    intro position hposition
    rw [Visibility.switch, Visibility.switch, h position hposition]
  · rw [applyVisibility_records, applyVisibility_records]
    apply congrArg
    apply List.filter_congr
    intro position hposition
    rw [h position (List.mem_range.mp hposition)]

/-- What a map leaves of a flag that switching sets. -/
theorem visible_switch {visible : α → Bool}
    (hvisible : ∀ element shown, visible (Toggle.setVisible element shown) = shown)
    (map : Visibility) (position : Nat) (element : α) :
    visible (map.switch position element) = (map.get? position).getD (visible element) := by
  rw [Visibility.switch]
  cases map.get? position with
  | none => rfl
  | some shown => exact hvisible element shown

/-- For a flag, switching twice is switching once to what the override assigns. -/
theorem visible_switch_switch {visible : α → Bool}
    (hvisible : ∀ element shown, visible (Toggle.setVisible element shown) = shown)
    (earlier later : Visibility) (position : Nat) (element : α) :
    visible (later.switch position (earlier.switch position element)) =
      visible ((earlier.override later).switch position element) := by
  rw [visible_switch hvisible, visible_switch hvisible, visible_switch hvisible,
    Visibility.get?_override]
  cases later.get? position <;> rfl

end

/-- A probe counts one switch where the map says something at its position. -/
theorem switches_switch (map : Visibility) (position : Nat) (probe : Probe) :
    (map.switch position probe).switches =
      if (map.get? position).isSome then probe.switches + 1 else probe.switches := by
  rw [Visibility.switch]
  cases map.get? position <;> rfl

/-- **Visibility maps compose by override.** Two maps applied one after the other leave the flags
that the first overridden by the second leaves when it is applied once. A single map switches an
element once to what its position is assigned, and leaves every other element as it is; those it
reports, one record for each and in their order. Positions that no element has make no difference,
nor does the order in which the map was made. -/
theorem visibility_maps_compose {α : Type} [Toggle α] (visible : α → Bool)
    (hvisible : ∀ element shown, visible (Toggle.setVisible element shown) = shown)
    (earlier later map : Visibility) (elements : List α) (probes : List Probe) :
    (applyVisibility later (applyVisibility earlier elements).1).1.map visible =
        (applyVisibility (earlier.override later) elements).1.map visible ∧
      (∀ position, (earlier.override later).get? position =
        (later.get? position).or (earlier.get? position)) ∧
      (applyVisibility map elements).1 = elements.mapIdx map.switch ∧
      (applyVisibility map elements).1.map visible = elements.mapIdx (fun position element =>
        (map.get? position).getD (visible element)) ∧
      (applyVisibility map probes).1.map (·.switches) = probes.mapIdx (fun position probe =>
        if (map.get? position).isSome then probe.switches + 1 else probe.switches) ∧
      (applyVisibility map elements).2 =
        ((List.range elements.length).filter fun position =>
          (map.get? position).isNone).map .unassigned ∧
      ∀ other : Visibility,
        (∀ position < elements.length, other.get? position = map.get? position) →
          applyVisibility other elements = applyVisibility map elements := by
  refine ⟨?_, Visibility.get?_override earlier later, applyVisibility_elements map elements, ?_, ?_,
    applyVisibility_records map elements, fun other => applyVisibility_congr⟩
  · rw [map_applyVisibility, map_applyVisibility, applyVisibility_elements, List.mapIdx_mapIdx]
    simp only [Function.comp_def, visible_switch_switch hvisible]
  · simp only [map_applyVisibility, visible_switch hvisible]
  · simp only [map_applyVisibility, switches_switch]

/-- Both maps assign the third element and name positions that there are not, one of them the
largest; the second element is in neither. -/
theorem visibility_maps_compose_of_strays :
    let earlier := Visibility.ofList [(18446744073709551615, true), (2, false), (0, false)]
    let later := Visibility.ofList [(7, true), (2, true)]
    let probes : List Probe :=
      [{ title := "alpha".toList, categories := [] },
        { title := "beta".toList, categories := [], visible := false, switches := 1 },
        { title := "gamma".toList, categories := [] }]
    (∀ (probe : Probe) shown, (Toggle.setVisible probe shown).visible = shown) ∧
      (applyVisibility later (applyVisibility earlier probes).1).1.map (·.visible) =
        [false, false, true] ∧
      (applyVisibility later probes).1.map (·.switches) = [0, 1, 1] ∧
      (applyVisibility later probes).2 = [.unassigned 0, .unassigned 1] ∧
      applyVisibility (later.insert 18446744073709551615 false) probes =
        applyVisibility later probes := by
  intro earlier later probes
  have hvisible : ∀ (probe : Probe) shown, (Toggle.setVisible probe shown).visible = shown :=
    fun _ _ => rfl
  obtain ⟨hflags, -, -, -, hswitches, hrecords, hother⟩ :=
    visibility_maps_compose Probe.visible hvisible earlier later later probes probes
  refine ⟨hvisible, hflags.trans rfl, hswitches.trans rfl, hrecords.trans rfl, ?_⟩
  apply hother
  intro position hposition
  have hlt : position < 3 := hposition
  rw [Visibility.get?_insert, if_neg (by omega)]

end ArchiveSearch
