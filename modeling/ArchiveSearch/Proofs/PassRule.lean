import ArchiveSearch.Matching.Probe
import ArchiveSearch.Proofs.VisibilityPass
import Mathlib.Data.List.Infix

/-!
# The rule of a pass

For one element a pass is a loop with a flag. The flag is set at the start, each filter sets it anew
by whether the attribute holds its text, and the loop ends when the flag is not set any more
(`verdict`). The pass itself judges all elements before it switches any, and it goes by a map from
positions to verdicts. Still each element gets the verdict of the loop, from the filters up to the
first that hides it and no others (`judge_eq`), and it is switched once. Probes keep account of
that, so what is proved of one pass (`applyFilters_probes`) can be added up over many
(`afterPasses_eq`): of the flag the last pass decides, and the switches and readings of all of them
are summed.
-/

namespace ArchiveSearch

/-- What a filter sets the flag to, for an element with some texts. -/
def Filter.shows (filter : Filter) (texts : Field → Text) : Bool :=
  if filter.value <:+: texts filter.field then !filter.exclude else filter.exclude

/-- The flag at the end of the loop, from what it is now and the filters that are left. -/
def verdictFrom (texts : Field → Text) (visible : Bool) : List Filter → Bool
  | [] => visible
  | filter :: filters =>
      let visible := filter.shows texts
      if visible then verdictFrom texts visible filters else visible

/-- The flag at the end of the loop, which starts with the flag set. -/
def verdict (texts : Field → Text) (filters : List Filter) : Bool :=
  verdictFrom texts true filters

/-- The filters up to and with the first that hides an element, or all of them if none does. -/
def consulted (texts : Field → Text) (filters : List Filter) : List Filter :=
  filters.take (filters.findIdx (!·.shows texts) + 1)

/-- The first filter has to show the element, and then the others have to. -/
theorem verdict_cons (texts : Field → Text) (filter : Filter) (filters : List Filter) :
    verdict texts (filter :: filters) = (filter.shows texts && verdict texts filters) := by
  unfold verdict
  rw [verdictFrom]
  cases filter.shows texts <;> rfl

/-- The others are consulted only if the first filter shows the element. -/
theorem consulted_cons (texts : Field → Text) (filter : Filter) (filters : List Filter) :
    consulted texts (filter :: filters) =
      filter :: if filter.shows texts then consulted texts filters else [] := by
  unfold consulted
  rw [List.findIdx_cons]
  cases filter.shows texts <;> rfl

section

variable {α : Type} [Candidate α]

/-- Whether a filter lets a candidate pass is what it sets the flag to. -/
theorem passes_eq_shows (filter : Filter) (candidate : α) :
    filter.passes candidate = filter.shows (Candidate.textOf candidate) := by
  let text := Candidate.textOf candidate filter.field
  have hoccurs : Text.occursIn filter.value text = decide (filter.value <:+: text) := by
    rw [Bool.eq_iff_iff, Text.occursIn_iff, decide_eq_true_iff]
  change (Text.occursIn filter.value text != filter.exclude) =
    if filter.value <:+: text then !filter.exclude else filter.exclude
  rw [hoccurs]
  by_cases hfound : filter.value <:+: text
  · rw [decide_eq_true hfound, if_pos hfound, Bool.true_bne]
  · rw [decide_eq_false hfound, if_neg hfound, Bool.false_bne]

/-- Judging a candidate gives the verdict of the loop, and the candidate read by the filters that
the loop consults, in order. -/
theorem judge_eq (filters : List Filter) (candidate : α) :
    judge filters candidate =
      (verdict (Candidate.textOf candidate) filters,
        (consulted (Candidate.textOf candidate) filters).foldl
          (fun candidate filter => Candidate.afterReading candidate filter.field) candidate) := by
  induction filters generalizing candidate with
  | nil => rfl
  | cons filter filters ih =>
      have htexts : Candidate.textOf (Candidate.afterReading candidate filter.field) =
          Candidate.textOf candidate :=
        funext (Candidate.textOf_afterReading candidate filter.field)
      rw [judge, passes_eq_shows, verdict_cons, consulted_cons]
      cases hshows : filter.shows (Candidate.textOf candidate) with
      | false => rfl
      | true =>
          have hrest := ih (Candidate.afterReading candidate filter.field)
          rw [htexts] at hrest
          exact hrest

end

/-- A probe keeps account of the filters that have read it. -/
theorem foldl_afterReading_probe (filters : List Filter) (probe : Probe) :
    filters.foldl (fun probe filter => Candidate.afterReading probe filter.field) probe =
      { probe with reads := probe.reads ++ filters.map (·.field) } := by
  induction filters generalizing probe with
  | nil => rw [List.map_nil, List.append_nil]; rfl
  | cons filter filters ih =>
      rw [List.foldl_cons, ih, List.map_cons, List.append_cons]
      rfl

/-- What a pass leaves of a probe: the verdict, one switch more, and the readings of the filters
that were consulted. -/
def Probe.passed (filters : List Filter) (probe : Probe) : Probe :=
  { probe with
    visible := verdict (Candidate.textOf probe) filters
    switches := probe.switches + 1
    reads := probe.reads ++ (consulted (Candidate.textOf probe) filters).map (·.field) }

/-- A pass does to every probe what the loop does. -/
theorem applyFilters_probes (filters : List Filter) (probes : List Probe) :
    (applyFilters filters probes).1 = probes.map (·.passed filters) := by
  rw [applyFilters_elements]
  apply List.map_congr_left
  intro probe _
  rw [switched, judge_eq, foldl_afterReading_probe]
  rfl

/-- The probes after some passes, one after the other. -/
def afterPasses (passes : List (List Filter)) (probes : List Probe) : List Probe :=
  passes.foldl (fun probes filters => (applyFilters filters probes).1) probes

/-- What some passes leave of a probe: of the flag the last of them decides, and the switches and
readings of all of them add up. -/
def Probe.passedAll (passes : List (List Filter)) (probe : Probe) : Probe :=
  { probe with
    visible := passes.getLast?.elim probe.visible (verdict (Candidate.textOf probe))
    switches := probe.switches + passes.length
    reads := probe.reads ++
      (passes.flatMap (consulted (Candidate.textOf probe))).map (·.field) }

/-- One pass, and then the others. -/
theorem Probe.passedAll_cons (filters : List Filter) (passes : List (List Filter)) (probe : Probe) :
    probe.passedAll (filters :: passes) = (probe.passed filters).passedAll passes := by
  have htexts : Candidate.textOf (probe.passed filters) = Candidate.textOf probe := rfl
  unfold passedAll
  rw [htexts, List.getLast?_cons, List.length_cons, List.flatMap_cons, List.map_append,
    ← List.append_assoc, Nat.add_comm passes.length 1, ← Nat.add_assoc]
  cases passes.getLast? <;> rfl

/-- Several passes do to every probe what their sum says. -/
theorem afterPasses_eq (passes : List (List Filter)) (probes : List Probe) :
    afterPasses passes probes = probes.map (·.passedAll passes) := by
  induction passes generalizing probes with
  | nil => simp [afterPasses, Probe.passedAll]
  | cons filters passes ih =>
      have hrest : afterPasses (filters :: passes) probes =
          afterPasses passes (applyFilters filters probes).1 := rfl
      rw [hrest, ih, applyFilters_probes, List.map_map]
      apply List.map_congr_left
      intro probe _
      exact (probe.passedAll_cons filters passes).symm

/-- **A pass follows its rule.** Whatever the elements were before, a pass sets each to the verdict
of the loop, switches it once, and has it read by the filters up to the first that hides it; their
texts, their number and their order stay. The log counts the filters, the elements that are shown
then, and all elements. Another pass with the same filters shows the same, and so does the pass
after any others. -/
theorem passes_follow_rule (filters : List Filter) (probes : List Probe) :
    let after := (applyFilters filters probes).1
    after = probes.map (fun probe => { probe with
        visible := verdict (Candidate.textOf probe) filters
        switches := probe.switches + 1
        reads := probe.reads ++
          (consulted (Candidate.textOf probe) filters).map (·.field) }) ∧
      (applyFilters filters probes).2 =
        [.applied filters.length (after.countP (·.visible)) after.length] ∧
      (applyFilters filters after).1.map (·.visible) = after.map (·.visible) ∧
      ∀ earlier, (afterPasses (earlier ++ [filters]) probes).map (·.visible) =
        after.map (·.visible) := by
  intro after
  have hafter : after = probes.map (·.passed filters) := applyFilters_probes filters probes
  have hlast : ∀ earlier, (afterPasses (earlier ++ [filters]) probes).map (·.visible) =
      after.map (·.visible) := by
    intro earlier
    rw [hafter, afterPasses_eq, List.map_map, List.map_map]
    apply List.map_congr_left
    intro probe _
    simp only [Function.comp_apply, Probe.passedAll, List.getLast?_concat, Option.elim_some]
    rfl
  have hverdict : isVisible filters = (fun probe : Probe => (probe.passed filters).visible) := by
    funext probe
    rw [isVisible, judge_eq]
    rfl
  refine ⟨hafter, ?_, hlast [filters], hlast⟩
  rw [applyFilters_records, hafter, List.countP_map, List.length_map, hverdict]
  rfl

/-- The second filter hides the element, so the third does not read it. -/
example :
    let filters : List Filter :=
      [⟨false, .title, "alpha".toList⟩, ⟨true, .title, "release".toList⟩,
        ⟨false, .category, "news".toList⟩]
    let probe : Probe := { title := "alpha release".toList, categories := "news".toList }
    (applyFilters filters [probe]).1.map (·.reads) = [[.title, .title]] := by
  decide +kernel

end ArchiveSearch
