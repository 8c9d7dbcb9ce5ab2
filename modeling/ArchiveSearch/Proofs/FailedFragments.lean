import ArchiveSearch.Page.Event
import ArchiveSearch.Proofs.Navigation
import ArchiveSearch.Proofs.Submission

/-!
# Fragments that cannot be read

Navigation stores a fragment before it reads it, so one that cannot be read stays behind, and it is
all that stays behind of any failure (`Page.step_of_error`). After however many failures a page is
what it was but for such a fragment (`Page.Failing.strandedFrom_run`). A fragment that can be read
is another than one that cannot, so navigation to it is never skipped as a fragment that is stored
already, and it comes to the page that it would have come to without the failures
(`Page.StrandedFrom.navigate_eq`).
-/

namespace ArchiveSearch.Page

/-- Each of some events fails when it happens to a page. -/
inductive Failing : Page → List Event → Prop
  | nil (page : Page) : Failing page []
  | cons {page : Page} {event : Event} {events : List Event} {e : Fragment.Error}
      (herror : (page.step event).error? = some e)
      (tail : Failing (page.step event).page events) : Failing page (event :: events)

/-- A page is what another was, but for a fragment that cannot be read. -/
def StrandedFrom (origin page : Page) : Prop :=
  page = origin ∨
    ∃ fragment e, Fragment.decode fragment = .error e ∧ page = { origin with fragment }

/-- Loading fails only at a fragment that spells no query, and then it changes nothing. -/
theorem load_of_error {page : Page} {e : Fragment.Error} (h : page.load.error? = some e) :
    page.load.page = page ∧ Fragment.decode page.fragment = .error e := by
  cases hquery : Fragment.decode page.fragment with
  | error other =>
      rw [load_of_decode_error hquery] at h ⊢
      cases h
      exact ⟨rfl, rfl⟩
  | ok query =>
      rw [load_error?_of_decode_ok hquery] at h
      cases h

/-- A change of the fragment fails only if it spells no query, and then the page stays as it is. -/
theorem hashChange_of_error {page : Page} {e : Fragment.Error}
    (h : page.hashChange.error? = some e) :
    page.hashChange.page = page ∧ Fragment.decode page.fragment = .error e := by
  cases hquery : Fragment.decode page.fragment with
  | error other =>
      rw [hashChange_of_decode_error hquery] at h ⊢
      cases h
      exact ⟨rfl, rfl⟩
  | ok query =>
      rw [hashChange_of_decode_ok hquery] at h
      cases h

/-- Navigation fails at a fragment that is not the one stored, and leaves it stored. -/
theorem navigate_of_error {page : Page} {fragment : Text} {e : Fragment.Error}
    (h : (page.navigate fragment).error? = some e) :
    (page.navigate fragment).page = page.openWith fragment ∧
      Fragment.decode (Fragment.withoutMark fragment) = .error e := by
  unfold navigate at *
  split at h
  · cases h
  · rename_i hchanged
    rw [if_neg hchanged]
    exact hashChange_of_error h

/-- What a failure leaves of a page: all of it, and after navigation the fragment that was refused
in place of the stored one. Nothing but loading, a change of the fragment and navigation can fail,
and the error is that of the fragment which is then stored. -/
theorem step_of_error {page : Page} {event : Event} {e : Fragment.Error}
    (h : (page.step event).error? = some e) :
    (((event = .load ∨ event = .hashChange) ∧ (page.step event).page = page) ∨
        ∃ fragment, event = .navigate fragment ∧
          (page.step event).page = page.openWith fragment) ∧
      Fragment.decode (page.step event).page.fragment = .error e := by
  cases event with
  | load =>
      obtain ⟨hpage, hdecode⟩ := load_of_error h
      exact ⟨.inl ⟨.inl rfl, hpage⟩, by rw [step, hpage]; exact hdecode⟩
  | hashChange =>
      obtain ⟨hpage, hdecode⟩ := hashChange_of_error h
      exact ⟨.inl ⟨.inr rfl, hpage⟩, by rw [step, hpage]; exact hdecode⟩
  | navigate fragment =>
      obtain ⟨hpage, hdecode⟩ := navigate_of_error h
      exact ⟨.inr ⟨fragment, rfl, hpage⟩, by rw [step, hpage]; exact hdecode⟩
  | submit =>
      rw [step, submit_error?] at h
      cases h
  | openWith fragment => cases h
  | typed text => cases h
  | push post => cases h
  | runQuery query => cases h

/-- One more failure strands a page from the same one. -/
theorem StrandedFrom.step {origin page : Page} {event : Event} {e : Fragment.Error}
    (h : StrandedFrom origin page) (herror : (page.step event).error? = some e) :
    StrandedFrom origin (page.step event).page := by
  obtain ⟨⟨-, hpage⟩ | ⟨fragment, -, hpage⟩, hdecode⟩ := step_of_error herror
  · rw [hpage]
    exact h
  · rw [hpage] at hdecode ⊢
    refine .inr ⟨Fragment.withoutMark fragment, e, hdecode, ?_⟩
    obtain rfl | ⟨stored, -, -, rfl⟩ := h <;> rfl

/-- Failing events, however many, leave a page stranded from where it was. -/
theorem Failing.strandedFrom_run {origin page : Page} {events : List Event}
    (hfailing : Failing page events) (h : StrandedFrom origin page) :
    StrandedFrom origin (page.run events) := by
  induction hfailing with
  | nil page => exact h
  | cons herror tail ih => exact ih (h.step herror)

/-- Navigation to a fragment that can be read comes to the same page from a stranded one. -/
theorem StrandedFrom.navigate_eq {origin page : Page} {fragment query : Text}
    (h : StrandedFrom origin page)
    (hchanged : Fragment.withoutMark fragment ≠ origin.fragment)
    (hquery : Fragment.decode (Fragment.withoutMark fragment) = .ok query) :
    page.navigate fragment = origin.navigate fragment := by
  obtain rfl | ⟨stored, e, hstored, rfl⟩ := h
  · rfl
  · have hother : Fragment.withoutMark fragment ≠ stored := by
      rintro rfl
      rw [hquery] at hstored
      cases hstored
    unfold navigate
    rw [if_neg hother, if_neg hchanged]
    rfl

/-- **Failures leave no trace.** When an event fails at a page, it is the loading of the page or a
change of its fragment, and then the page is as it was; or it is navigation, and then the refused
fragment without the number sign at its front is stored and all else is as it was. And whatever
navigation changes the fragment and succeeds has the same outcome after any number of failures,
whichever they were, as it has without them. -/
theorem failed_fragments_leave_no_trace (page : Page) :
    (∀ event e, (page.step event).error? = some e →
      ((event = .load ∨ event = .hashChange) ∧ (page.step event).page = page) ∨
        ∃ fragment, event = .navigate fragment ∧
          (page.step event).page =
            { page with fragment := Fragment.withoutMark fragment }) ∧
      ∀ events fragment, Failing page events →
        Fragment.withoutMark fragment ≠ page.fragment →
        (page.navigate fragment).error? = none →
        (page.run events).navigate fragment = page.navigate fragment := by
  refine ⟨?_, ?_⟩
  · intro event e herror
    exact (step_of_error herror).1
  · intro events fragment hfailing hchanged hsucceeds
    obtain ⟨query, hquery⟩ := (restores_navigate hchanged).succeeds_iff.mp hsucceeds
    have hstranded : StrandedFrom page (page.run events) := hfailing.strandedFrom_run (.inl rfl)
    exact hstranded.navigate_eq hchanged hquery

/-- The page has a hidden entry and a fragment that cannot be read. Loading it fails, then two
navigations and a change of the fragment, and the fragment that stays behind is no hindrance. -/
theorem failed_fragments_leave_no_trace_of_teas :
    let page : Page :=
      { entries := [{ title := "tea".toList, categories := [] },
          { title := "milk".toList, categories := [], visible := false }]
        searchText := "sugar".toList
        fragment := "%4".toList }
    let events : List Event :=
      [.load, .navigate "#tea%2".toList, .hashChange, .navigate "##%E9".toList]
    Failing page events ∧
      (page.step (.navigate "#tea%2".toList)).page = { page with fragment := "tea%2".toList } ∧
      (page.run events).fragment = "#%E9".toList ∧
      (page.run events).navigate "milk".toList = page.navigate "milk".toList ∧
      ((page.run events).navigate "milk".toList).page.entries.map (·.visible) = [false, true] := by
  intro page events
  have hrefused : (page.step (.navigate "#tea%2".toList)).error? = some (.malformedEscape 3) := by
    decide +kernel
  have hfailing : Failing page events :=
    .cons (e := .malformedEscape 0) (by decide +kernel)
      (.cons hrefused
        (.cons (e := .malformedEscape 3) (by decide +kernel)
          (.cons (e := .invalidUtf8 ⟨0, none⟩) (by decide +kernel) (.nil _))))
  obtain ⟨hsteps, hruns⟩ := failed_fragments_leave_no_trace page
  have hsame := hruns events "milk".toList hfailing (by decide +kernel) (by decide +kernel)
  refine ⟨hfailing, ?_, by decide +kernel, hsame, ?_⟩
  · obtain ⟨hevent, -⟩ | ⟨fragment, hevent, hpage⟩ := hsteps _ _ hrefused
    · simp at hevent
    · cases hevent
      exact hpage
  · rw [hsame]
    decide +kernel

end ArchiveSearch.Page
