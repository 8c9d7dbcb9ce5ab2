import ArchiveSearch.Page.Basic
import ArchiveSearch.Proofs.QueryConcatenation
import ArchiveSearch.Proofs.VisibilityPass

/-!
# Queries are conjunctions

Filters are consulted in order and the first that hides a candidate ends it, but neither the order
nor the end shows in the verdict: a candidate is visible exactly if every filter lets it pass
(`isVisible_iff`). So the more filters there are the less is visible (`isVisible_of_subset`), and of
a list of filters no more counts than which filters are in it (`isVisible_congr`). Two queries with
an even number of quotes each keep their filters when a space joins them
(`Query.filters_append_space`), so the joined query shows what both of them show.
-/

namespace ArchiveSearch

section

variable {α : Type} [Candidate α]

/-- Where the consulting of filters ends makes no difference to the verdict. -/
theorem isVisible_iff {filters : List Filter} {candidate : α} :
    isVisible filters candidate = true ↔ ∀ filter ∈ filters, filter.passes candidate = true := by
  rw [isVisible_eq_all, List.all_eq_true]

/-- What some filters leave visible, fewer of them leave visible as well. -/
theorem isVisible_of_subset {filters others : List Filter} {candidate : α}
    (hsubset : filters ⊆ others) (h : isVisible others candidate = true) :
    isVisible filters candidate = true := by
  rw [isVisible_iff] at h ⊢
  intro filter hfilter
  exact h filter (hsubset hfilter)

/-- Neither the order of filters nor their repetition shows in the verdict. -/
theorem isVisible_congr {filters others : List Filter}
    (hsame : ∀ filter, filter ∈ filters ↔ filter ∈ others) (candidate : α) :
    isVisible filters candidate = isVisible others candidate := by
  rw [Bool.eq_iff_iff]
  constructor
  · exact isVisible_of_subset fun filter => (hsame filter).mpr
  · exact isVisible_of_subset fun filter => (hsame filter).mp

/-- What some filters and then others leave visible is what both leave visible. -/
theorem isVisible_append (filters others : List Filter) (candidate : α) :
    isVisible (filters ++ others) candidate =
      (isVisible filters candidate && isVisible others candidate) := by
  rw [isVisible_eq_all, isVisible_eq_all, isVisible_eq_all, List.all_append]

end

/-- A space between two queries with an even number of quotes each neither merges nor splits their
filters. -/
theorem Query.filters_append_space {first second : Text} (hfirst : Balanced first)
    (hsecond : Balanced second) :
    filters (first ++ ' ' :: second) = filters first ++ filters second := by
  have hspaced : Spaced [first, second] (first ++ ([' '] ++ second)) :=
    .cons isBreak_space (.single second)
  have hfilters := hspaced.filters_eq (by simp [hfirst, hsecond])
  simpa using hfilters

namespace Page

/-- At a position of a page stands an entry that is shown. -/
def ShowsAt (page : Page) (position : Nat) (entry : Entry) : Prop :=
  page.entries[position]? = some entry ∧ entry.visible = true

instance (page : Page) (position : Nat) (entry : Entry) :
    Decidable (page.ShowsAt position entry) :=
  inferInstanceAs (Decidable (_ ∧ _))

/-- After a query the page shows its entries as they were where the filters leave them visible. -/
theorem showsAt_runQuery_iff {page : Page} {query : Text} {position : Nat} {entry : Entry} :
    (page.runQuery query).ShowsAt position entry ↔
      ∃ stored, page.entries[position]? = some stored ∧
        isVisible (Query.filters query) stored = true ∧
        entry = { stored with visible := true } := by
  unfold ShowsAt runQuery
  rw [applyFilters_entries, List.getElem?_map, Option.map_eq_some_iff]
  constructor
  · rintro ⟨⟨stored, hstored, rfl⟩, hvisible⟩
    have hverdict : isVisible (Query.filters query) stored = true := hvisible
    exact ⟨stored, hstored, hverdict, by rw [hverdict]⟩
  · rintro ⟨stored, hstored, hverdict, rfl⟩
    exact ⟨⟨stored, hstored, by rw [hverdict]⟩, rfl⟩

/-- Whether an entry of a page is shown after a query is the verdict of its filters. -/
theorem showsAt_runQuery_of_stored {page : Page} {position : Nat} {entry : Entry}
    (h : page.entries[position]? = some entry) (query : Text) :
    (page.runQuery query).ShowsAt position { entry with visible := true } ↔
      isVisible (Query.filters query) entry = true := by
  rw [showsAt_runQuery_iff]
  constructor
  · intro hshown
    obtain ⟨stored, hstored, hverdict, -⟩ := hshown
    rw [h] at hstored
    cases hstored
    exact hverdict
  · intro hverdict
    exact ⟨entry, h, hverdict, rfl⟩

/-- Queries with the same filters in them, however ordered and repeated, leave the same page. -/
theorem runQuery_congr {query other : Text} (page : Page)
    (hsame : ∀ filter, filter ∈ Query.filters query ↔ filter ∈ Query.filters other) :
    page.runQuery query = page.runQuery other := by
  unfold runQuery
  rw [applyFilters_entries, applyFilters_entries]
  simp only [isVisible_congr hsame]

/-- **Queries are conjunctions.** Of two queries with an even number of quotes each, joined by a
space, a page shows the entries that it shows of the one query and of the other as well, and the
order of the two makes no difference. For any candidate the verdict of some filters is that every
one of them lets it pass, so lists with the same filters in them, in any order and with any
repetitions, give the same verdict. -/
theorem queries_are_conjunctions (page : Page) (first second : Text)
    (hfirst : Query.Balanced first) (hsecond : Query.Balanced second) :
    (∀ position entry, (page.runQuery (first ++ ' ' :: second)).ShowsAt position entry ↔
        (page.runQuery first).ShowsAt position entry ∧
          (page.runQuery second).ShowsAt position entry) ∧
      page.runQuery (second ++ ' ' :: first) = page.runQuery (first ++ ' ' :: second) ∧
      ∀ (α : Type) [Candidate α] (filters others : List Filter) (candidate : α),
        (isVisible filters candidate = true ↔
            ∀ filter ∈ filters, filter.passes candidate = true) ∧
          ((∀ filter, filter ∈ filters ↔ filter ∈ others) →
            isVisible filters candidate = isVisible others candidate) := by
  have hjoined := Query.filters_append_space hfirst hsecond
  have hswapped := Query.filters_append_space hsecond hfirst
  refine ⟨?_, ?_, ?_⟩
  · intro position entry
    simp only [showsAt_runQuery_iff, hjoined, isVisible_append, Bool.and_eq_true]
    constructor
    · rintro ⟨stored, hstored, ⟨hone, hother⟩, rfl⟩
      exact ⟨⟨stored, hstored, hone, rfl⟩, ⟨stored, hstored, hother, rfl⟩⟩
    · rintro ⟨⟨stored, hstored, hone, rfl⟩, ⟨again, hagain, hother, -⟩⟩
      -- both verdicts are on the entry that stands at the position
      rw [hstored] at hagain
      cases hagain
      exact ⟨stored, hstored, ⟨hone, hother⟩, rfl⟩
  · apply runQuery_congr
    intro filter
    rw [hjoined, hswapped, List.mem_append, List.mem_append, or_comm]
  · intro α _ filters others candidate
    exact ⟨isVisible_iff, fun hsame => isVisible_congr hsame candidate⟩

/-- One query has a quoted gap, the other an exclusion, and each shows an entry that the other
hides. The entry that both show was hidden before. -/
theorem queries_are_conjunctions_of_teas :
    let green : Entry := { title := "green tea".toList, categories := "drinks".toList }
    let draft : Entry := { title := "green tea".toList, categories := "drafts".toList }
    let black : Entry := { title := "black tea".toList, categories := "drinks".toList }
    let page : Page := { entries := [{ green with visible := false }, draft, black] }
    let first := "\"green tea\"".toList
    let second := "-category:drafts tea".toList
    let filters : List Filter := [⟨false, .title, "tea".toList⟩, ⟨true, .category, "drafts".toList⟩]
    Query.Balanced first ∧ Query.Balanced second ∧
      (page.runQuery (first ++ ' ' :: second)).ShowsAt 0 green ∧
      ¬ (page.runQuery (first ++ ' ' :: second)).ShowsAt 1 draft ∧
      ¬ (page.runQuery (first ++ ' ' :: second)).ShowsAt 2 black ∧
      (page.runQuery (second ++ ' ' :: first)).shown = [green] ∧
      isVisible (filters.reverse ++ filters) draft = isVisible filters draft := by
  intro green draft black page first second filters
  have hfirst : Query.Balanced first := by decide
  have hsecond : Query.Balanced second := by decide
  obtain ⟨hshows, hswap, hverdicts⟩ := queries_are_conjunctions page first second hfirst hsecond
  have hsame : ∀ filter, filter ∈ filters.reverse ++ filters ↔ filter ∈ filters := by
    intro filter
    rw [List.mem_append, List.mem_reverse, or_self]
  refine ⟨hfirst, hsecond, ?_, ?_, ?_, ?_, (hverdicts Entry _ _ draft).2 hsame⟩
  · rw [hshows]
    decide +kernel
  · rw [hshows]
    decide +kernel
  · rw [hshows]
    decide +kernel
  · rw [hswap]
    decide +kernel

end Page

end ArchiveSearch
