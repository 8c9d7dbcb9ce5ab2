import ArchiveSearch.Page.Basic
import ArchiveSearch.Proofs.FragmentRoundTrip

/-!
# Submitting

Submitting does not apply the text in the search field but its fragment, which is stored, read back
and written into the search field again. Nothing gets lost on the way: no fragment that is written
begins with a number sign (`Fragment.withoutMark_encode`), each is read back
(`Fragment.decode_encode`), and one that is stored already was written for the same text or is not
read as another. So a page is submitted in one of two ways (`Page.submit_of_stored`,
`Page.submit_of_changed`).
-/

namespace ArchiveSearch.Page

/-- A page that is opened at the fragment of a query stores it as it is. -/
theorem openWith_encode (page : Page) (query : Text) :
    page.openWith (Fragment.encode query) = { page with fragment := Fragment.encode query } := by
  unfold openWith
  rw [Fragment.withoutMark_encode]

/-- A change to a fragment that spells a query restores that query. -/
theorem hashChange_of_decode_ok {page : Page} {query : Text}
    (hquery : Fragment.decode page.fragment = .ok query) :
    page.hashChange = { page := page.restore query } := by
  unfold hashChange
  rw [hquery]

/-- Submitting the query that the fragment keeps already changes nothing. -/
theorem submit_of_stored {page : Page} (h : Fragment.encode page.searchText = page.fragment) :
    page.submit = { page } := by
  unfold submit navigate
  rw [Fragment.withoutMark_encode, if_pos h]

/-- Submitting any other query stores it and applies it, for it is read back as it was. -/
theorem submit_of_changed {page : Page} (h : Fragment.encode page.searchText ≠ page.fragment) :
    page.submit = { page :=
      { page with fragment := Fragment.encode page.searchText }.restore page.searchText } := by
  unfold submit navigate
  rw [Fragment.withoutMark_encode, if_neg h, openWith_encode]
  exact hashChange_of_decode_ok (Fragment.decode_encode page.searchText)

/-- No submission fails. -/
theorem submit_error? (page : Page) : page.submit.error? = none := by
  by_cases hstored : Fragment.encode page.searchText = page.fragment
  · rw [submit_of_stored hstored]
  · rw [submit_of_changed hstored]

/-- After a submission the fragment spells the search text. -/
theorem submit_fragment (page : Page) :
    page.submit.page.fragment = Fragment.encode page.searchText := by
  by_cases hstored : Fragment.encode page.searchText = page.fragment
  · rw [submit_of_stored hstored]
    exact hstored.symm
  · rw [submit_of_changed hstored]
    rfl

/-- A number sign in front changes nothing about navigation to a written fragment. -/
theorem navigate_mark_encode (page : Page) (query : Text) :
    page.navigate ('#' :: Fragment.encode query) = page.navigate (Fragment.encode query) := by
  have hsame : Fragment.withoutMark ('#' :: Fragment.encode query) =
      Fragment.withoutMark (Fragment.encode query) :=
    (Fragment.withoutMark_encode query).symm
  unfold navigate openWith
  rw [hsame]

/-- **No submission fails or is lost.** Whatever fragment a page has stored and whatever its search
field holds, submitting succeeds, keeps the search text and stores its fragment. If that fragment
was stored already nothing changes, and if not, the page is the one that navigation to it gives,
with its query applied to the entries. The query goes unapplied only where the fragment that was
stored is read as the very same query. -/
theorem submit_applies_search_text (page : Page) :
    page.submit.error? = none ∧
      page.submit.page.searchText = page.searchText ∧
      page.submit.page.fragment = Fragment.encode page.searchText ∧
      (page.fragment = Fragment.encode page.searchText → page.submit.page = page) ∧
      (page.fragment ≠ Fragment.encode page.searchText →
        page.submit = page.navigate ('#' :: Fragment.encode page.searchText) ∧
          page.submit.page =
            { page with
              fragment := Fragment.encode page.searchText
              entries := (page.runQuery page.searchText).entries }) ∧
      (Fragment.decode page.fragment ≠ .ok page.searchText →
        page.submit.page.entries = (page.runQuery page.searchText).entries) := by
  by_cases hstored : Fragment.encode page.searchText = page.fragment
  · have hread : Fragment.decode page.fragment = .ok page.searchText := by
      rw [← hstored]
      exact Fragment.decode_encode page.searchText
    rw [submit_of_stored hstored]
    exact ⟨rfl, rfl, hstored.symm, fun _ => rfl, fun hchanged => absurd hstored.symm hchanged,
      fun hother => absurd hread hother⟩
  · have hnavigate : page.submit = page.navigate ('#' :: Fragment.encode page.searchText) :=
      (navigate_mark_encode page page.searchText).symm
    rw [← hnavigate, submit_of_changed hstored]
    exact ⟨rfl, rfl, rfl, fun hsame => absurd hsame.symm hstored, fun _ => ⟨rfl, rfl⟩, fun _ => rfl⟩

/-- The stored fragment cannot be read, and the search text looks like a fragment itself. -/
theorem submit_applies_search_text_over_broken_fragment :
    let page : Page :=
      { entries := [{ title := "#%41".toList, categories := [] },
          { title := "a".toList, categories := [] }]
        searchText := "#%41".toList
        fragment := "%4".toList }
    page.fragment ≠ Fragment.encode page.searchText ∧
      page.submit = page.navigate "#%23%2541".toList ∧
      page.submit.page.entries.map (·.visible) = [true, false] := by
  intro page
  have hchanged : page.fragment ≠ Fragment.encode page.searchText := by decide +kernel
  have hunread : Fragment.decode page.fragment ≠ .ok page.searchText := by
    intro h
    cases h
  have h := submit_applies_search_text page
  have hencode : '#' :: Fragment.encode page.searchText = "#%23%2541".toList := by decide +kernel
  refine ⟨hchanged, ?_, ?_⟩
  · rw [← hencode]
    exact (h.2.2.2.2.1 hchanged).1
  · rw [h.2.2.2.2.2 hunread]
    decide +kernel

end ArchiveSearch.Page
