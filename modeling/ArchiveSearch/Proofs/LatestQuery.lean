import ArchiveSearch.Proofs.BrowserSession

/-!
# The latest query

Any events may happen to a page, posts that come in and queries applied past the fragment among
them. Whether an event applies a query, and which one, is said by `Page.applied?`; of the entries an
event either makes what that query leaves of them, or it only adds the entry of a pushed post
(`Page.step_entries`). A pass looks at the texts of entries alone, and those no event changes
(`Page.run_texts`), so of all passes the latest one explains the view, and what was pushed after it
is shown (`Page.run_entries_of_quiet`).
-/

namespace ArchiveSearch

/-- The texts of an entry, without whether it is shown. -/
def Entry.texts (entry : Entry) : Text × Text :=
  (entry.title, entry.categories)

/-- The entry of some texts, shown if some filters leave it visible. -/
def Entry.judged (filters : List Filter) (texts : Text × Text) : Entry :=
  let entry : Entry := { title := texts.1, categories := texts.2 }
  { entry with visible := isVisible filters entry }

/-- The texts of an entry are all that a verdict on it needs. -/
theorem Entry.judged_texts (filters : List Filter) (entry : Entry) :
    Entry.judged filters entry.texts = { entry with visible := isVisible filters entry } := by
  rw [← isVisible_with_visible filters entry true]
  rfl

namespace Page

/-- The query that an event applies to the entries, if it applies one. -/
def applied? (page : Page) : Event → Option Text
  | .runQuery query => some query
  | .hashChange => (Fragment.decode page.fragment).toOption
  | .load => (Fragment.decode page.fragment).toOption.filter (!·.isEmpty)
  | .navigate fragment =>
      if Fragment.withoutMark fragment = page.fragment then none
      else (Fragment.decode (Fragment.withoutMark fragment)).toOption
  | .submit =>
      if Fragment.encode page.searchText = page.fragment then none else some page.searchText
  | .openWith _ | .typed _ | .push _ => none

/-- The post that an event pushes, if it pushes one. -/
def Event.post? : Event → Option Post
  | .push post => some post
  | _ => none

/-- The entries of the posts that some events push onto a page. -/
def pushed (page : Page) (events : List Event) : List Entry :=
  (events.filterMap Event.post?).map (.ofPost page.config.separator)

/-- None of some events applies a query. -/
def Quiet (page : Page) (events : List Event) : Prop :=
  ∀ before event after, events = before ++ event :: after →
    (page.run before).applied? event = none

/-- Events that follow others happen to the page that those leave. -/
theorem run_append (page : Page) (events later : List Event) :
    page.run (events ++ later) = (page.run events).run later :=
  List.foldl_append

/-- A change of the fragment leaves the configuration as it is. -/
theorem hashChange_config (page : Page) : page.hashChange.page.config = page.config := by
  unfold hashChange
  split <;> rfl

theorem navigate_config (page : Page) (fragment : Text) :
    (page.navigate fragment).page.config = page.config := by
  unfold navigate
  split
  · rfl
  · exact hashChange_config _

theorem load_config (page : Page) : page.load.page.config = page.config := by
  unfold load
  split
  · rfl
  · split <;> rfl

/-- No event changes the configuration. -/
theorem step_config (page : Page) (event : Event) :
    (page.step event).page.config = page.config := by
  cases event with
  | load => exact load_config page
  | submit => exact navigate_config page _
  | hashChange => exact hashChange_config page
  | navigate fragment => exact navigate_config page fragment
  | openWith fragment => rfl
  | typed text => rfl
  | push post => rfl
  | runQuery query => rfl

/-- The configuration of a page is the one that it started with. -/
theorem run_config (page : Page) (events : List Event) :
    (page.run events).config = page.config := by
  induction events generalizing page with
  | nil => rfl
  | cons event events ih => exact (ih _).trans (step_config page event)

/-- A change of the fragment applies the query that the stored fragment spells. -/
theorem hashChange_entries (page : Page) :
    page.hashChange.page.entries =
      (page.applied? .hashChange).elim page.entries (afterQuery · page.entries) := by
  unfold hashChange applied?
  cases Fragment.decode page.fragment <;> rfl

/-- Loading applies the query that the stored fragment spells, unless it is the empty one. -/
theorem load_entries (page : Page) :
    page.load.page.entries =
      (page.applied? .load).elim page.entries (afterQuery · page.entries) := by
  unfold load applied?
  cases Fragment.decode page.fragment with
  | error e => rfl
  | ok query => cases query <;> rfl

/-- Navigation to another fragment than the stored one applies the query that it spells. -/
theorem navigate_entries (page : Page) (fragment : Text) :
    (page.navigate fragment).page.entries =
      (page.applied? (.navigate fragment)).elim page.entries (afterQuery · page.entries) := by
  simp only [navigate, applied?]
  by_cases hstored : Fragment.withoutMark fragment = page.fragment
  · rw [if_pos hstored, if_pos hstored]
    rfl
  · rw [if_neg hstored, if_neg hstored]
    exact hashChange_entries (page.openWith fragment)

/-- Submitting applies what navigation to the encoded text applies. -/
theorem applied?_submit (page : Page) :
    page.applied? .submit = page.applied? (.navigate (Fragment.encode page.searchText)) := by
  simp only [applied?]
  rw [Fragment.withoutMark_encode, Fragment.decode_encode]
  rfl

/-- What an event does to the entries: it applies its query, if it has one, and it adds what it
pushes. -/
theorem step_entries (page : Page) (event : Event) :
    (page.step event).page.entries =
      (page.applied? event).elim page.entries (afterQuery · page.entries) ++
        page.pushed [event] := by
  cases event with
  | load => exact (load_entries page).trans (List.append_nil _).symm
  | submit =>
      rw [applied?_submit]
      exact (navigate_entries page _).trans (List.append_nil _).symm
  | hashChange => exact (hashChange_entries page).trans (List.append_nil _).symm
  | navigate fragment => exact (navigate_entries page fragment).trans (List.append_nil _).symm
  | openWith fragment => exact (List.append_nil _).symm
  | typed text => exact (List.append_nil _).symm
  | push post => rfl
  | runQuery query => exact (List.append_nil _).symm

/-- An event that applies a query pushes nothing. -/
theorem pushed_of_applied {page : Page} {event : Event} {query : Text}
    (h : page.applied? event = some query) : page.pushed [event] = [] := by
  cases event with
  | push post => cases h
  | _ => rfl

/-- What later events push comes behind what the earlier ones push. -/
theorem pushed_append (page : Page) (events later : List Event) :
    page.pushed (events ++ later) = page.pushed events ++ page.pushed later := by
  unfold pushed
  rw [List.filterMap_append, List.map_append]

theorem pushed_cons (page : Page) (event : Event) (events : List Event) :
    page.pushed (event :: events) = page.pushed [event] ++ page.pushed events :=
  pushed_append page [event] events

/-- What events push depends on the separator of the page alone, which none of them changes. -/
theorem pushed_run (page : Page) (events later : List Event) :
    (page.run events).pushed later = page.pushed later := by
  unfold pushed
  rw [run_config]

/-- What is pushed later does not depend on the event before. -/
theorem pushed_step (page : Page) (event : Event) (later : List Event) :
    (page.step event).page.pushed later = page.pushed later :=
  pushed_run page [event] later

/-- A pass changes no text. -/
theorem afterQuery_texts (query : Text) (entries : List Entry) :
    (afterQuery query entries).map Entry.texts = entries.map Entry.texts := by
  unfold afterQuery
  rw [applyFilters_entries, List.map_map]
  rfl

/-- A pass makes of every entry what its texts decide. -/
theorem afterQuery_eq_judged (query : Text) (entries : List Entry) :
    afterQuery query entries =
      (entries.map Entry.texts).map (Entry.judged (Query.filters query)) := by
  rw [afterQuery, applyFilters_entries, List.map_map]
  apply List.map_congr_left
  intro entry _
  exact (Entry.judged_texts _ entry).symm

/-- A pass looks at the texts of entries alone. -/
theorem afterQuery_congr {entries others : List Entry} (query : Text)
    (h : entries.map Entry.texts = others.map Entry.texts) :
    afterQuery query entries = afterQuery query others := by
  rw [afterQuery_eq_judged, afterQuery_eq_judged, h]

/-- An event changes no text; it only adds those of the post that it pushes. -/
theorem step_texts (page : Page) (event : Event) :
    (page.step event).page.entries.map Entry.texts =
      (page.entries ++ page.pushed [event]).map Entry.texts := by
  rw [step_entries, List.map_append, List.map_append]
  cases page.applied? event with
  | none => rfl
  | some query => rw [Option.elim_some, afterQuery_texts]

/-- Whatever happens to a page, its entries stay what they are and where they are, and those of
pushed posts come behind them. -/
theorem run_texts (page : Page) (events : List Event) :
    (page.run events).entries.map Entry.texts =
      (page.entries ++ page.pushed events).map Entry.texts := by
  induction events generalizing page with
  | nil => exact congrArg _ (List.append_nil _).symm
  | cons event events ih =>
      have hrest := ih (page.step event).page
      rw [pushed_step, List.map_append, step_texts, ← List.map_append, List.append_assoc,
        ← pushed_cons] at hrest
      exact hrest

theorem quiet_nil (page : Page) : Quiet page [] := by
  intro before event after hnil
  cases before <;> cases hnil

/-- An event that applies no query may come before quiet events. -/
theorem Quiet.cons {page : Page} {event : Event} {events : List Event}
    (hevent : page.applied? event = none) (h : Quiet (page.step event).page events) :
    Quiet page (event :: events) := by
  intro before later after hevents
  cases before with
  | nil =>
      cases hevents
      exact hevent
  | cons first before =>
      cases hevents
      exact h before later after rfl

/-- The first of quiet events applies no query. -/
theorem Quiet.head {page : Page} {event : Event} {events : List Event}
    (h : Quiet page (event :: events)) : page.applied? event = none :=
  h [] event events rfl

/-- The events behind the first are quiet on the page that it leaves. -/
theorem Quiet.tail {page : Page} {event : Event} {events : List Event}
    (h : Quiet page (event :: events)) : Quiet (page.step event).page events := by
  intro before later after hevents
  exact h (event :: before) later after (by rw [hevents]; rfl)

/-- Without a pass the entries stay as they are, and pushed ones are shown. -/
theorem run_entries_of_quiet {page : Page} {events : List Event} (h : Quiet page events) :
    (page.run events).entries = page.entries ++ page.pushed events := by
  induction events generalizing page with
  | nil => exact (List.append_nil _).symm
  | cons event events ih =>
      have hrest := ih h.tail
      rw [pushed_step, step_entries, h.head, Option.elim_none, List.append_assoc,
        ← pushed_cons] at hrest
      exact hrest

/-- Right after a pass the entries are what its query leaves of all that the page had by then. -/
theorem run_entries_of_applied {page : Page} {before : List Event} {event : Event} {query : Text}
    (h : (page.run before).applied? event = some query) :
    (page.run (before ++ [event])).entries =
      afterQuery query (page.entries ++ page.pushed before) := by
  rw [run_append]
  change ((page.run before).step event).page.entries = _
  rw [step_entries, h, Option.elim_some, pushed_of_applied h, List.append_nil]
  exact afterQuery_congr query (run_texts page before)

/-- Either no event applies a query, or one of those that do is the latest. -/
theorem quiet_or_latest (page : Page) (events : List Event) :
    Quiet page events ∨
      ∃ before event after query, events = before ++ event :: after ∧
        (page.run before).applied? event = some query ∧
        Quiet (page.run (before ++ [event])) after := by
  induction events generalizing page with
  | nil => exact .inl (quiet_nil page)
  | cons event events ih =>
      rcases ih (page.step event).page with hquiet | ⟨before, later, after, query, rfl, hlater⟩
      · cases hevent : page.applied? event with
        | none => exact .inl (hquiet.cons hevent)
        | some query => exact .inr ⟨[], event, events, query, rfl, hevent, hquiet⟩
      · exact .inr ⟨event :: before, later, after, query, rfl, hlater⟩

/-- **The latest query explains the view.** Any events happen to any page, in any order and failing
or not. The entries stay what they are, and those of pushed posts come behind them in order. Either
no event applies a query; then the entries that were there keep their display and the pushed ones
are shown. Or there is a latest event that does; then exactly the entries are shown that its query
leaves visible, of those that the page had by then, and all that were pushed later. -/
theorem run_entries_follow_latest_query (page : Page) (events : List Event) :
    (page.run events).entries.map Entry.texts =
        (page.entries ++ page.pushed events).map Entry.texts ∧
      (∀ entry ∈ page.pushed events, entry.visible = true) ∧
      (Quiet page events → (page.run events).entries = page.entries ++ page.pushed events) ∧
      (∀ before event after query, events = before ++ event :: after →
        (page.run before).applied? event = some query →
        Quiet (page.run (before ++ [event])) after →
        (page.run events).entries =
          (page.entries ++ page.pushed before).map (fun entry =>
            { entry with visible := isVisible (Query.filters query) entry }) ++
            page.pushed after) ∧
      (Quiet page events ∨
        ∃ before event after query, events = before ++ event :: after ∧
          (page.run before).applied? event = some query ∧
          Quiet (page.run (before ++ [event])) after) := by
  refine ⟨run_texts page events, ?_, run_entries_of_quiet, ?_, quiet_or_latest page events⟩
  · intro entry hentry
    obtain ⟨post, -, rfl⟩ := List.mem_map.mp hentry
    rfl
  · intro before event after query hevents happlied hquiet
    have hsplit : events = (before ++ [event]) ++ after := by
      rw [hevents, List.append_assoc]
      rfl
    rw [hsplit, run_append, run_entries_of_quiet hquiet, run_entries_of_applied happlied,
      pushed_run]
    exact congrArg (· ++ page.pushed after) (applyFilters_entries _ _)

/-- A search, then a post, then a navigation and a load that fail: the search still explains the
entries that it found, hidden ones among them, and the later post is shown. -/
theorem run_entries_after_failures :
    let page : Page := { entries :=
      [{ title := "milk".toList, categories := [], visible := false },
        { title := "tea".toList, categories := [] }] }
    let before : List Event := [.push ⟨"Milk jug".toList, []⟩, .typed "milk".toList]
    let after : List Event :=
      [.push ⟨"Teapot".toList, []⟩, .navigate "#tea%2".toList, .load, .typed "tea".toList]
    (page.run (before ++ .submit :: after)).entries.map (·.visible) =
      [true, false, true, true] := by
  intro page before after
  have happlied : (page.run before).applied? .submit = some "milk".toList := by decide +kernel
  have hquiet : Quiet (page.run (before ++ [.submit])) after :=
    .cons rfl (.cons (by decide +kernel) (.cons (by decide +kernel) (.cons rfl (quiet_nil _))))
  rw [(run_entries_follow_latest_query page _).2.2.2.1 before .submit after _ rfl happlied hquiet]
  decide +kernel

end Page

end ArchiveSearch
