import ArchiveSearch.Proofs.BrowserSession
import ArchiveSearch.Proofs.FragmentReading

/-!
# Opening a page and navigating

Opening a page at a fragment and loading it, and navigating to a fragment, both store the fragment
first and then read what is stored. Each of the two steps drops a number sign at the front, so of
two of them both are dropped, while decoding the fragment itself drops one
(`Fragment.decode_two_marks`). A number sign is a plain character, so this never makes the
difference between a fragment that can be read and one that cannot
(`Fragment.exists_decode_withoutMark_iff`). What an event has to do to decode a fragment is said by
`Page.Outcome.Restores`.
-/

namespace ArchiveSearch

namespace Fragment

/-- Whether two number signs stand at the front of a text. -/
def TwoMarks (text : Text) : Prop :=
  ['#', '#'] <+: text

instance (text : Text) : Decidable (TwoMarks text) :=
  inferInstanceAs (Decidable (_ <+: _))

/-- Only of two number signs is a second one dropped. -/
theorem withoutMark_withoutMark {text : Text} (h : ¬ TwoMarks text) :
    withoutMark (withoutMark text) = withoutMark text := by
  apply withoutMark_of_head?_ne
  intro hsecond
  by_cases hfirst : text.head? = some '#'
  · obtain ⟨rest, rfl⟩ := List.head?_eq_some_iff.mp hfirst
    obtain ⟨rest', hrest⟩ := List.head?_eq_some_iff.mp hsecond
    change rest = '#' :: rest' at hrest
    exact h ⟨rest', by rw [hrest]; rfl⟩
  · rw [withoutMark_of_head?_ne hfirst] at hsecond
    exact hfirst hsecond

/-- A number sign spells its own byte, so a text spells the bytes of a query with one in front
exactly if its rest spells the query. -/
theorem spells_mark_iff {text query : Text} :
    Spells ('#' :: text) (Utf8.encode query) ↔
      ∃ rest, query = '#' :: rest ∧ Spells text (Utf8.encode rest) := by
  constructor
  · intro h
    generalize hbytes : Utf8.encode query = bytes at h
    cases h with
    | @plain _ _ bytes hc tail =>
        cases query with
        | nil => cases hbytes
        | cons c rest =>
            rw [Utf8.encode_cons] at hbytes
            obtain ⟨rfl, rfl⟩ := Utf8.encodeChar_append_inj hbytes
            exact ⟨rest, rfl, tail⟩
  · rintro ⟨rest, rfl, h⟩
    rw [Utf8.encode_cons]
    exact .plain (by decide) h

/-- Dropping a number sign before decoding leaves what is read as it is, but for a fragment with two
of them. -/
theorem decode_withoutMark {fragment : Text} (h : ¬ TwoMarks fragment) :
    decode (withoutMark fragment) = decode fragment := by
  unfold decode
  rw [withoutMark_withoutMark h]

/-- Of two number signs the second is part of the query, unless the first is dropped before. -/
theorem decode_two_marks {rest query : Text} :
    decode ('#' :: '#' :: rest) = .ok query ↔
      ∃ text, query = '#' :: text ∧ decode ('#' :: rest) = .ok text := by
  simp only [decode_eq_ok_iff]
  exact spells_mark_iff

/-- Whether a fragment can be read does not depend on the number signs at its front. -/
theorem exists_decode_withoutMark_iff (fragment : Text) :
    (∃ query, decode (withoutMark fragment) = .ok query) ↔
      ∃ query, decode fragment = .ok query := by
  by_cases hmarks : TwoMarks fragment
  · obtain ⟨rest, rfl⟩ := hmarks
    constructor
    · rintro ⟨text, htext⟩
      exact ⟨'#' :: text, decode_two_marks.mpr ⟨text, rfl, htext⟩⟩
    · rintro ⟨query, hquery⟩
      obtain ⟨text, -, htext⟩ := decode_two_marks.mp hquery
      exact ⟨text, htext⟩
  · rw [decode_withoutMark hmarks]

end Fragment

namespace Page

/-- An outcome that means decoding a fragment: it fails if that does, and otherwise the query that
is read stands in the search field and decides which of the entries are shown. -/
structure Outcome.Restores (outcome : Outcome) (fragment : Text) (entries : List Entry) : Prop where
  succeeds_iff : outcome.error? = none ↔ ∃ query, Fragment.decode fragment = .ok query
  restored : ∀ query, Fragment.decode fragment = .ok query →
    outcome.page.searchText = query ∧
      outcome.page.entries = entries.map fun entry =>
        { entry with visible := isVisible (Query.filters query) entry }

/-- An outcome that fails restores a fragment that spells no query. -/
theorem restores_of_decode_error {page : Page} {fragment : Text} {e : Fragment.Error}
    (entries : List Entry) (h : Fragment.decode fragment = .error e) :
    Outcome.Restores ⟨page, some e⟩ fragment entries := by
  refine ⟨?_, ?_⟩
  · rw [h]
    simp
  · intro query hquery
    rw [h] at hquery
    cases hquery

/-- Putting back the query that a fragment spells restores the fragment. -/
theorem restores_of_decode_ok {page : Page} {fragment query : Text}
    (h : Fragment.decode fragment = .ok query) :
    Outcome.Restores ⟨page.restore query, none⟩ fragment page.entries := by
  refine ⟨?_, ?_⟩
  · rw [h]
    simp
  · intro other hother
    rw [h] at hother
    cases hother
    exact ⟨rfl, applyFilters_entries _ _⟩

/-- A fragment with the same reading is restored as well. -/
theorem Outcome.Restores.congr {outcome : Outcome} {fragment other : Text} {entries : List Entry}
    (h : outcome.Restores fragment entries)
    (hsame : Fragment.decode other = Fragment.decode fragment) :
    outcome.Restores other entries := by
  refine ⟨?_, ?_⟩
  · rw [hsame]
    exact h.succeeds_iff
  · rw [hsame]
    exact h.restored

/-- On a page of shown entries with an empty search field nothing has to be done for the empty
query. -/
theorem restore_nil {page : Page} (htext : page.searchText = [])
    (hshown : ∀ entry ∈ page.entries, entry.visible = true) : page.restore [] = page := by
  have hentries : (page.restore []).entries = page.entries := afterQuery_nil hshown
  calc
    page.restore [] = { page with searchText := [], entries := (page.restore []).entries } := rfl
    _ = page := by rw [hentries, ← htext]

/-- Loading a page of shown entries with nothing in its search field restores the query in its
fragment, the empty one too. -/
theorem load_of_fresh {page : Page} {query : Text} (htext : page.searchText = [])
    (hshown : ∀ entry ∈ page.entries, entry.visible = true)
    (hquery : Fragment.decode page.fragment = .ok query) :
    page.load = { page := page.restore query } := by
  unfold load
  rw [hquery]
  cases query with
  | nil =>
      rw [restore_nil htext hshown]
      rfl
  | cons c query => rfl

/-- Loading a fresh page restores its fragment, also where the query is empty. -/
theorem restores_load_of_fresh {page : Page} (htext : page.searchText = [])
    (hshown : ∀ entry ∈ page.entries, entry.visible = true) :
    page.load.Restores page.fragment page.entries := by
  cases hquery : Fragment.decode page.fragment with
  | error e =>
      rw [load_of_decode_error hquery]
      exact restores_of_decode_error _ hquery
  | ok query =>
      rw [load_of_fresh htext hshown hquery]
      exact restores_of_decode_ok hquery

/-- A change of the fragment restores the stored one, on any page. -/
theorem restores_hashChange (page : Page) :
    page.hashChange.Restores page.fragment page.entries := by
  unfold hashChange
  cases hquery : Fragment.decode page.fragment with
  | error e => exact restores_of_decode_error _ hquery
  | ok query => exact restores_of_decode_ok hquery

/-- Navigation restores the new fragment, if it is not the stored one. -/
theorem restores_navigate {page : Page} {fragment : Text}
    (hchanged : Fragment.withoutMark fragment ≠ page.fragment) :
    (page.navigate fragment).Restores (Fragment.withoutMark fragment) page.entries := by
  unfold navigate
  rw [if_neg hchanged]
  exact restores_hashChange (page.openWith fragment)

/-- **Opening and navigating decode the fragment.** A fresh page that is opened at a fragment and
loaded, and any page that is navigated to a fragment it has not stored, restores what the fragment
without the number sign at its front is decoded to. That is what the fragment itself is decoded to,
unless it starts with two number signs; and even then opening and navigating succeed exactly if
decoding the fragment does. -/
theorem opening_and_navigating_decode (config : Config) (entries : List Entry) (page : Page)
    (fragment : Text) (hshown : ∀ entry ∈ entries, entry.visible = true)
    (hchanged : Fragment.withoutMark fragment ≠ page.fragment) :
    let opened := (openWith { config, entries } fragment).load
    let navigated := page.navigate fragment
    (opened.Restores (Fragment.withoutMark fragment) entries ∧
        navigated.Restores (Fragment.withoutMark fragment) page.entries) ∧
      (¬ Fragment.TwoMarks fragment →
        opened.Restores fragment entries ∧ navigated.Restores fragment page.entries) ∧
      ((opened.error? = none ↔ ∃ query, Fragment.decode fragment = .ok query) ∧
        (navigated.error? = none ↔ ∃ query, Fragment.decode fragment = .ok query)) := by
  intro opened navigated
  have hopened : opened.Restores (Fragment.withoutMark fragment) entries :=
    restores_load_of_fresh rfl hshown
  have hnavigated : navigated.Restores (Fragment.withoutMark fragment) page.entries :=
    restores_navigate hchanged
  have hreadable := Fragment.exists_decode_withoutMark_iff fragment
  refine ⟨⟨hopened, hnavigated⟩, ?_, hopened.succeeds_iff.trans hreadable,
    hnavigated.succeeds_iff.trans hreadable⟩
  intro hmarks
  have hsame := (Fragment.decode_withoutMark hmarks).symm
  exact ⟨hopened.congr hsame, hnavigated.congr hsame⟩

/-- A number sign that is escaped stays: the page is left at a query and navigated away from it. -/
theorem opening_and_navigating_decode_escaped_mark :
    let entries : List Entry :=
      [{ title := "#x".toList, categories := [] }, { title := "x".toList, categories := [] }]
    let page : Page := (openWith { entries } "x".toList).load.page
    let fragment := "#%23x".toList
    (∀ entry ∈ entries, entry.visible = true) ∧
      Fragment.withoutMark fragment ≠ page.fragment ∧
      (openWith { entries } fragment).load.Restores fragment entries ∧
      (page.navigate fragment).Restores fragment page.entries := by
  intro entries page fragment
  have hshown : ∀ entry ∈ entries, entry.visible = true := by decide
  have hchanged : Fragment.withoutMark fragment ≠ page.fragment := by decide +kernel
  have hmarks : ¬ Fragment.TwoMarks fragment := by decide +kernel
  have h := opening_and_navigating_decode {} entries page fragment hshown hchanged
  exact ⟨hshown, hchanged, h.2.1 hmarks⟩

/-- Decoding `##x` gives `#x`, which one of the two entries holds. A page that is opened there or
navigated there searches for `x` and shows both. -/
theorem opening_and_navigating_drop_second_mark :
    let entries : List Entry :=
      [{ title := "#x".toList, categories := [] }, { title := "x".toList, categories := [] }]
    let opened := (openWith { entries } "##x".toList).load
    let navigated := navigate { entries } "##x".toList
    Fragment.decode "##x".toList = .ok "#x".toList ∧
      opened.page.searchText = "x".toList ∧ opened.page.shown = entries ∧
      navigated.page.searchText = "x".toList ∧ navigated.page.shown = entries ∧
      ¬ opened.Restores "##x".toList entries ∧ ¬ navigated.Restores "##x".toList entries := by
  intro entries opened navigated
  have hdecode : Fragment.decode "##x".toList = .ok "#x".toList := by with_unfolding_all rfl
  have hopened : opened.page.searchText = "x".toList := by decide +kernel
  have hnavigated : navigated.page.searchText = "x".toList := by decide +kernel
  refine ⟨hdecode, hopened, by decide +kernel, hnavigated, by decide +kernel, ?_, ?_⟩
  · intro h
    have hmark := (h.restored _ hdecode).1
    rw [hopened] at hmark
    exact absurd hmark (by decide)
  · intro h
    have hmark := (h.restored _ hdecode).1
    rw [hnavigated] at hmark
    exact absurd hmark (by decide)

end Page

end ArchiveSearch
