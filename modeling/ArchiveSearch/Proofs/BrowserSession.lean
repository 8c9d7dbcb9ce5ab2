import ArchiveSearch.Page.Event
import ArchiveSearch.Proofs.FragmentRoundTrip
import ArchiveSearch.Proofs.VisibilityPass

/-!
# A session at a browser

Loading, submitting and navigating each apply a query in their own way, and two of them sometimes
apply none: an empty query at loading, and a fragment that is stored already. Navigation that fails
leaves a fragment behind that no entry follows. Still no order of such events leaves a stale view. A
pass forgets the one before it (`Unmarked`), so it is enough that the fragment, whenever it spells a
query, spells the query of the latest pass (`Settled`).
-/

namespace ArchiveSearch.Page

/-- The events that reach a page from its reader and its browser. Opening a page comes before all of
them, and no reader adds posts or applies a query past the fragment. -/
def Event.InSession : Event → Prop
  | .load | .submit | .hashChange | .navigate _ | .typed _ => True
  | .openWith _ | .push _ | .runQuery _ => False

/-- The page as a browser opens it: with a fragment that is then loaded, or with none. -/
def opened (page : Page) : Option Text → Page
  | none => page
  | some fragment => (page.openWith fragment).load.page

/-- The entries that a query leaves of some entries, the shown and the hidden ones. -/
def afterQuery (query : Text) (entries : List Entry) : List Entry :=
  (applyFilters (Query.filters query) entries).1

/-- Every query leaves of the page what it leaves of `entries`. -/
def Unmarked (entries : List Entry) (page : Page) : Prop :=
  ∀ query, afterQuery query page.entries = afterQuery query entries

/-- What a session that began with `entries` keeps up about its page. -/
structure Settled (entries : List Entry) (page : Page) : Prop where
  unmarked : Unmarked entries page
  /-- A query that the fragment spells is the one that the entries follow. -/
  current : ∀ query, Fragment.decode page.fragment = .ok query →
    page.entries = afterQuery query entries

/-- Typing touches neither the fragment nor the entries. -/
theorem settled_typed {entries : List Entry} {page : Page} (h : Settled entries page)
    (text : Text) : Settled entries (page.typed text) :=
  ⟨h.unmarked, h.current⟩

/-- A fragment that spells no text binds the entries to nothing. -/
theorem settled_of_decode_error {entries : List Entry} {page : Page} {e : Fragment.Error}
    (hunmarked : Unmarked entries page) (herror : Fragment.decode page.fragment = .error e) :
    Settled entries page := by
  refine ⟨hunmarked, ?_⟩
  intro query hquery
  rw [herror] at hquery
  cases hquery

/-- A page whose fragment spells the empty query is settled once that query was applied. -/
theorem settled_of_decode_nil {entries : List Entry} {page : Page}
    (hunmarked : Unmarked entries page) (hempty : Fragment.decode page.fragment = .ok [])
    (hcurrent : page.entries = afterQuery [] entries) : Settled entries page := by
  refine ⟨hunmarked, ?_⟩
  intro query hquery
  rw [hempty] at hquery
  cases hquery
  exact hcurrent

/-- Restoring the query in the fragment settles a page, however stale it was. -/
theorem settled_restore {entries : List Entry} {page : Page} {query : Text}
    (hunmarked : Unmarked entries page) (hquery : Fragment.decode page.fragment = .ok query) :
    Settled entries (page.restore query) := by
  have hentries : (page.restore query).entries = afterQuery query entries := hunmarked query
  refine ⟨?_, ?_⟩
  · intro other
    rw [hentries]
    exact applyFilters_applyFilters _ _ _
  · intro other hother
    have hsame : Fragment.decode page.fragment = .ok other := hother
    rw [hquery] at hsame
    cases hsame
    exact hentries

/-- After a change of the fragment a page is settled: either the query was applied, or the fragment
spells none. -/
theorem settled_hashChange {entries : List Entry} {page : Page}
    (hunmarked : Unmarked entries page) : Settled entries page.hashChange.page := by
  unfold hashChange
  cases hquery : Fragment.decode page.fragment with
  | error e => exact settled_of_decode_error hunmarked hquery
  | ok query => exact settled_restore hunmarked hquery

/-- Loading settles a page on which an empty query, which it skips, need not be applied. -/
theorem settled_load {entries : List Entry} {page : Page} (hunmarked : Unmarked entries page)
    (hempty : Fragment.decode page.fragment = .ok [] → page.entries = afterQuery [] entries) :
    Settled entries page.load.page := by
  unfold load
  cases hquery : Fragment.decode page.fragment with
  | error e => exact settled_of_decode_error hunmarked hquery
  | ok query =>
      cases query with
      | nil => exact settled_of_decode_nil hunmarked hquery (hempty hquery)
      | cons c query => exact settled_restore hunmarked hquery

/-- A fragment that is stored already changes nothing, and any other is restored. -/
theorem settled_navigate {entries : List Entry} {page : Page} (h : Settled entries page)
    (fragment : Text) : Settled entries (page.navigate fragment).page := by
  unfold navigate
  split
  · exact h
  · apply settled_hashChange
    exact h.unmarked

/-- No event of a session leaves a stale view. -/
theorem settled_step {entries : List Entry} {page : Page} {event : Event}
    (h : Settled entries page) (hevent : event.InSession) :
    Settled entries (page.step event).page := by
  cases event with
  | load => exact settled_load h.unmarked (h.current [])
  | submit => exact settled_navigate h _
  | hashChange => exact settled_hashChange h.unmarked
  | navigate fragment => exact settled_navigate h fragment
  | typed text => exact settled_typed h text
  | openWith fragment => exact hevent.elim
  | push post => exact hevent.elim
  | runQuery query => exact hevent.elim

/-- A session leaves its page settled, whatever happens in it. -/
theorem settled_run {entries : List Entry} {page : Page} {events : List Event}
    (h : Settled entries page) (hevents : ∀ event ∈ events, event.InSession) :
    Settled entries (page.run events) := by
  induction events generalizing page with
  | nil => exact h
  | cons event events ih =>
      have hstep := settled_step h (hevents event List.mem_cons_self)
      apply ih hstep
      intro later hlater
      exact hevents later (List.mem_cons_of_mem event hlater)

/-- The empty query has no filters, so it leaves entries as they are that are all shown. -/
theorem afterQuery_nil {entries : List Entry} (hshown : ∀ entry ∈ entries, entry.visible = true) :
    afterQuery [] entries = entries := by
  have hfilters : Query.filters [] = [] := by decide +kernel
  unfold afterQuery
  rw [hfilters]
  exact applyFilters_nil_of_shown hshown

/-- A page is settled when a session starts, with an opening fragment or without. -/
theorem settled_opened {entries : List Entry} (config : Config) (fragment? : Option Text)
    (hshown : ∀ entry ∈ entries, entry.visible = true) :
    Settled entries (opened { config, entries } fragment?) := by
  have hfresh : entries = afterQuery [] entries := (afterQuery_nil hshown).symm
  cases fragment? with
  | some fragment => exact settled_load (fun _ => rfl) (fun _ => hfresh)
  | none => exact settled_of_decode_nil (fun _ => rfl) (Fragment.decode_encode []) hfresh

/-- Loading leaves the stored fragment as it is. -/
theorem load_fragment (page : Page) : page.load.page.fragment = page.fragment := by
  unfold load
  split
  · rfl
  · split <;> rfl

/-- Loading at a fragment that spells no query changes nothing. -/
theorem load_of_decode_error {page : Page} {e : Fragment.Error}
    (herror : Fragment.decode page.fragment = .error e) : page.load = ⟨page, some e⟩ := by
  unfold load
  rw [herror]

theorem hashChange_of_decode_error {page : Page} {e : Fragment.Error}
    (herror : Fragment.decode page.fragment = .error e) : page.hashChange = ⟨page, some e⟩ := by
  unfold hashChange
  rw [herror]

theorem load_error?_of_decode_ok {page : Page} {query : Text}
    (hquery : Fragment.decode page.fragment = .ok query) : page.load.error? = none := by
  unfold load
  rw [hquery]

/-- A page opened with a fragment that spells a query, and loaded, shows what the query leaves. -/
theorem opened_entries {entries : List Entry} {fragment query : Text} (config : Config)
    (hshown : ∀ entry ∈ entries, entry.visible = true)
    (hquery : Fragment.decode fragment = .ok query) :
    (opened { config, entries } (some ('#' :: fragment))).entries = afterQuery query entries := by
  have hsettled := settled_opened config (some ('#' :: fragment)) hshown
  apply hsettled.current
  unfold opened
  rw [load_fragment]
  exact hquery

/-- **No stale view.** A page of shown entries is opened, with a fragment or without, and any events
of a session happen to it, in any order and failing or not. Whenever its fragment then spells a
query, each entry is shown exactly if the filters of that query leave it visible, and opening and
loading a fresh page at that fragment succeeds and shows the very same entries. -/
theorem session_entries_follow_fragment (config : Config) (entries : List Entry)
    (fragment? : Option Text) (events : List Event) (query : Text)
    (hshown : ∀ entry ∈ entries, entry.visible = true)
    (hevents : ∀ event ∈ events, event.InSession)
    (hquery : Fragment.decode ((opened { config, entries } fragment?).run events).fragment =
      .ok query) :
    let page := (opened { config, entries } fragment?).run events
    let reopened := (openWith { config, entries } ('#' :: page.fragment)).load
    page.entries = (entries.map fun entry =>
        { entry with visible := isVisible (Query.filters query) entry }) ∧
      reopened.error? = none ∧ reopened.page.entries = page.entries := by
  intro page reopened
  have hsettled : Settled entries page :=
    settled_run (settled_opened config fragment? hshown) hevents
  have hentries : page.entries = afterQuery query entries := hsettled.current query hquery
  refine ⟨?_, ?_, ?_⟩
  · rw [hentries]
    exact applyFilters_entries _ _
  · exact load_error?_of_decode_ok hquery
  · rw [hentries]
    exact opened_entries config hshown hquery

/-- The view of another query stays behind an unreadable fragment until the reader goes back, and
submitting the query there once more, which changes no fragment, finds its view in place. -/
theorem session_entries_after_failed_navigation :
    let entries : List Entry :=
      [{ title := "tea".toList, categories := "drinks".toList },
        { title := "milk tea".toList, categories := "drinks".toList }]
    let events : List Event :=
      [.typed "milk".toList, .submit, .navigate "tea".toList, .navigate "tea%2".toList, .load,
        .navigate "#milk".toList, .typed "milk".toList, .submit]
    let page := (opened { entries } (some "#%E9".toList)).run events
    page.entries.map (·.visible) = [false, true] ∧
      (openWith { entries } ('#' :: page.fragment)).load.page.entries = page.entries := by
  intro entries events page
  have hshown : ∀ entry ∈ entries, entry.visible = true := by decide
  have hevents : ∀ event ∈ events, event.InSession := by simp [events, Event.InSession]
  have hfragment : page.fragment = Fragment.encode "milk".toList := by decide +kernel
  have hquery : Fragment.decode page.fragment = .ok "milk".toList := by
    rw [hfragment]
    exact Fragment.decode_encode _
  have h := session_entries_follow_fragment {} entries (some "#%E9".toList) events "milk".toList
    hshown hevents hquery
  refine ⟨?_, h.2.2⟩
  rw [h.1]
  decide +kernel

end ArchiveSearch.Page
