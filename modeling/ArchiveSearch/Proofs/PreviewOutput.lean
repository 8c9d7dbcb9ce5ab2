import ArchiveSearch.Preview
import ArchiveSearch.Proofs.BrowserSession
import ArchiveSearch.Proofs.Lowercase
import ArchiveSearch.Proofs.Submission

/-!
# What the preview prints

The preview goes a long way to print some titles: posts become entries of a page, the query is
encoded into the fragment, read back from it and applied, and the shown entries are collected. All
of it comes to one look at each line of the input (`shownLine`). The way never fails, for a query is
always read back from its own fragment, and it ends at the same page for the empty query, which
changes no fragment and so is never applied.
-/

namespace ArchiveSearch

namespace Page

/-- Submitting a query on a page that stands at no fragment and shows all entries comes to the same
for every query, the empty one included. -/
theorem submit_typed_of_fresh {page : Page} (query : Text) (hfragment : page.fragment = [])
    (hshown : ∀ entry ∈ page.entries, entry.visible = true) :
    (page.typed query).submit =
      { page := { page with
          searchText := query
          fragment := Fragment.encode query
          entries := afterQuery query page.entries } } := by
  by_cases hstored : Fragment.encode query = page.fragment
  · have hquery : query = [] := Fragment.encode_injective (hstored.trans hfragment)
    rw [submit_of_stored hstored, hstored, hquery, afterQuery_nil hshown]
    rfl
  · exact submit_of_changed hstored

end Page

namespace Post

/-- The title of a post is a part of its line. -/
theorem mem_of_mem_title {c : Char} {line : Text} {post : Post}
    (hpost : ofLine? line = some post) (h : c ∈ post.title) : c ∈ line := by
  unfold ofLine? at hpost
  split at hpost
  · cases hpost
  · split at hpost
    · cases hpost
      exact h
    · rename_i title listed hcut
      cases hpost
      rw [(cutAt?_eq_some_iff.mp hcut).1]
      exact List.mem_append_left _ h

/-- A title that is printed takes one line. -/
theorem not_mem_lower_title {line input : Text} {post : Post} (hline : line ∈ Text.lines input)
    (hpost : ofLine? line = some post) : '\n' ∉ Text.lower post.title := by
  intro h
  have htitle : '\n' ∈ post.title := Text.mem_lower_of_lt (by decide) h
  exact Text.not_mem_of_mem_lines hline (mem_of_mem_title hpost htitle)

end Post

namespace Preview

/-- Pushing posts one after the other puts their entries at the end of the page. -/
theorem foldl_push (posts : List Post) (page : Page) :
    posts.foldl Page.push page =
      { page with entries := page.entries ++ posts.map (.ofPost page.config.separator) } := by
  induction posts generalizing page with
  | nil => simp
  | cons post posts ih =>
      rw [List.foldl_cons, ih]
      simp [Page.push]

/-- The page of the preview, before anything is typed. -/
theorem page_eq (config : Config) (posts : List Post) :
    page config posts = { config, entries := posts.map (.ofPost config.separator) } :=
  foldl_push posts { config }

/-- All entries of a fresh page are shown. -/
theorem visible_of_mem_page {config : Config} {posts : List Post} :
    ∀ entry ∈ (page config posts).entries, entry.visible = true := by
  intro entry hentry
  rw [page_eq] at hentry
  obtain ⟨post, _, hpost⟩ := List.mem_map.mp hentry
  rw [← hpost]
  rfl

theorem page_fragment (config : Config) (posts : List Post) :
    (page config posts).fragment = [] := by
  rw [page_eq]

/-- What the preview prints of a line of its input. -/
def shownLine (filters : List Filter) (separator line : Text) : Text :=
  match Post.ofLine? line with
  | none => []
  | some post =>
      if isVisible filters (Entry.ofPost separator post) then Text.lower post.title ++ ['\n']
      else []

/-- Printing the entries that stay shown is looking at the lines they come from, one by one. -/
theorem flatMap_shown_title (query separator : Text) (lines : List Text) :
    ((Page.afterQuery query ((lines.filterMap Post.ofLine?).map (.ofPost separator))).filter
        (·.visible)).flatMap (fun entry => entry.title ++ ['\n']) =
      lines.flatMap (shownLine (Query.filters query) separator) := by
  unfold Page.afterQuery
  rw [applyFilters_entries]
  induction lines with
  | nil => rfl
  | cons line lines ih =>
      rw [List.flatMap_cons, ← ih, List.filterMap_cons]
      unfold shownLine
      cases Post.ofLine? line with
      | none => rfl
      | some post =>
          simp only [List.map_cons, List.filter_cons]
          split
          · rfl
          · rfl

/-- Submitting a query on a page of posts never fails, and prints what is shown of each line. -/
theorem submit_eq (config : Config) (query input : Text) :
    submit config query input =
      { exitCode := 0
        output := '#' :: Fragment.encode query ++ '\n' ::
          (Text.lines input).flatMap (shownLine (Query.filters query) config.separator) } := by
  unfold submit report
  rw [Page.submit_typed_of_fresh query (page_fragment _ _) visible_of_mem_page]
  unfold Page.shown
  rw [← flatMap_shown_title, page_eq]
  rfl

/-- Whatever becomes of the other variables, a run sees only the separator. -/
theorem run_of_parse {arguments : List Bytes} {input : Bytes} {terms : List Text} {text : Text}
    (environment : Environment) (hparse : CommandLine.parse arguments = .ok terms)
    (htext : Utf8.text? input = some text) :
    run arguments input environment =
      { exitCode := 0
        output := '#' :: Fragment.encode (CommandLine.query terms) ++ '\n' ::
          (Text.lines text).flatMap
            (shownLine (Query.filters (CommandLine.query terms))
              ((environment.text? "CATEGORY_SEPARATOR".toList).getD ",".toList)) } := by
  unfold run
  rw [hparse, htext]
  exact submit_eq _ _ _

/-- **The preview prints what a look at each line gives.** For arguments that are query terms and an
input that is UTF-8, a run exits with 0 and prints the fragment of the query and then, in the order
of the input, the lowered title of each line that is a post and that the query leaves visible, each
on a line of its own. Submitting never fails; with the empty query it leaves the page as it is, and
the output is right all the same; and of the environment only the separator matters. -/
theorem run_prints_visible_lines (arguments : List Bytes) (input : Bytes)
    (environment : Environment) (terms : List Text) (text : Text)
    (hparse : CommandLine.parse arguments = .ok terms) (htext : Utf8.text? input = some text) :
    let query := [' '].intercalate terms
    let separator := (environment.text? "CATEGORY_SEPARATOR".toList).getD ",".toList
    let ready := (page (.ofEnvironment environment) (posts text)).typed query
    run arguments input environment =
        { exitCode := 0
          output := '#' :: Fragment.encode query ++ '\n' ::
            (Text.lines text).flatMap (shownLine (Query.filters query) separator) } ∧
      (∀ line ∈ Text.lines text, ∀ post, Post.ofLine? line = some post →
        '\n' ∉ Text.lower post.title) ∧
      ready.submit.error? = none ∧
      (query = [] → ready.submit.page = ready) ∧
      ∀ other : Environment, other.text? "CATEGORY_SEPARATOR".toList =
          environment.text? "CATEGORY_SEPARATOR".toList →
        run arguments input other = run arguments input environment := by
  intro query separator ready
  have hfresh : (page (.ofEnvironment environment) (posts text)).fragment = [] :=
    page_fragment _ _
  refine ⟨run_of_parse environment hparse htext, ?_, ?_, ?_, ?_⟩
  · intro line hline post hpost
    exact Post.not_mem_lower_title hline hpost
  · have hsubmit := Page.submit_typed_of_fresh query hfresh visible_of_mem_page
    exact congrArg Page.Outcome.error? hsubmit
  · intro hempty
    have hstored : Fragment.encode query = ready.fragment := by
      rw [hempty]
      exact hfresh.symm
    exact congrArg Page.Outcome.page (Page.submit_of_stored hstored)
  · intro other hother
    rw [run_of_parse other hparse htext, run_of_parse environment hparse htext, hother]

/-- The query excludes the second post by two of its categories with the separator that the
environment sets between them, and the line that is blank is no post. -/
theorem run_prints_visible_lines_of_teas :
    let arguments := [Utf8.encode "tea".toList, Utf8.encode "-category:drafts;web".toList]
    let input := "Green Tea\tweb\n \r\nTeapots\tDrafts, Web\nSTEAM".toList
    let environment := Environment.ofList [("CATEGORY_SEPARATOR".toList, Utf8.encode ";".toList)]
    run arguments (Utf8.encode input) environment =
      { exitCode := 0
        output := "#tea%20-category%3Adrafts%3Bweb\ngreen tea\nsteam\n".toList } := by
  intro arguments input environment
  have hparse : CommandLine.parse arguments =
      .ok ["tea".toList, "-category:drafts;web".toList] := by
    with_unfolding_all rfl
  have h := run_prints_visible_lines arguments (Utf8.encode input) environment _ input hparse
    (Utf8.text?_encode input)
  rw [h.1]
  decide +kernel

end Preview

end ArchiveSearch
