import ArchiveSearch.Proofs.Navigation
import ArchiveSearch.Proofs.PreviewOutput

/-!
# The fragment that the preview prints

The preview comes to its titles by submitting, and a page that is opened at the printed fragment by
loading. The two read the same query back from the same fragment. Submitting skips a fragment that
is stored already, loading skips an empty query, and on a fresh page either is the empty query,
which would have changed nothing there (`Page.load_of_fresh`, `Page.submit_typed_of_fresh`). So both
end at the very same page (`Page.load_printed_eq_submit`).
-/

namespace ArchiveSearch

namespace Page

/-- On a fresh page, opening it at the printed fragment of a query and loading it comes to the same
as submitting the query. -/
theorem load_printed_eq_submit {page : Page} (query : Text) (htext : page.searchText = [])
    (hfragment : page.fragment = [])
    (hshown : ∀ entry ∈ page.entries, entry.visible = true) :
    (page.openWith ('#' :: Fragment.encode query)).load = (page.typed query).submit := by
  have hquery : Fragment.decode (page.openWith ('#' :: Fragment.encode query)).fragment =
      .ok query :=
    Fragment.decode_encode query
  rw [submit_typed_of_fresh query hfragment hshown]
  exact load_of_fresh htext hshown hquery

end Page

namespace Preview

/-- Lines without a line feed in them are found again between the line feeds that end them. -/
theorem splitOn_flatMap_lines {lines : List Text} (h : ∀ line ∈ lines, '\n' ∉ line) :
    (lines.flatMap fun line => line ++ ['\n']).splitOn '\n' = lines ++ [[]] := by
  induction lines with
  | nil => rfl
  | cons line lines ih =>
      rw [List.flatMap_cons, List.append_assoc, List.singleton_append,
        List.splitOn_append_cons_self_of_not_mem (h line List.mem_cons_self),
        ih fun later hlater => h later (List.mem_cons_of_mem line hlater)]
      rfl

/-- The printed fragment is one line. -/
theorem not_mem_encode (query : Text) : '\n' ∉ '#' :: Fragment.encode query := by
  intro h
  rcases List.mem_cons.mp h with hmark | hin
  · exact absurd hmark (by decide)
  · have hunreserved :=
      (Fragment.written_encode query).isUnreserved_of_ne '\n' hin (by decide)
    exact absurd hunreserved (by decide)

/-- A report falls into lines: the fragment, and one title each. -/
theorem splitOn_report (query : Text) {page : Page}
    (htitles : ∀ entry ∈ page.entries, '\n' ∉ entry.title) :
    (report query page).splitOn '\n' =
      ('#' :: Fragment.encode query) :: (page.shown.map (·.title) ++ [[]]) := by
  have hlines : ∀ line ∈ page.shown.map (·.title), '\n' ∉ line := by
    intro line hline
    obtain ⟨entry, hentry, rfl⟩ := List.mem_map.mp hline
    exact htitles entry (List.mem_filter.mp hentry).1
  rw [report, List.splitOn_append_cons_self_of_not_mem (not_mem_encode query),
    ← splitOn_flatMap_lines hlines, List.flatMap_map]

/-- The titles on a page of posts take one line each, whatever query is applied. -/
theorem not_mem_title_of_posts {config : Config} {query input : Text} :
    ∀ entry ∈ Page.afterQuery query (page config (posts input)).entries,
      '\n' ∉ entry.title := by
  intro entry hentry
  unfold Page.afterQuery at hentry
  rw [applyFilters_entries, page_eq] at hentry
  obtain ⟨judged, hjudged, rfl⟩ := List.mem_map.mp hentry
  obtain ⟨post, hpost, rfl⟩ := List.mem_map.mp hjudged
  obtain ⟨line, hline, hparsed⟩ := List.mem_filterMap.mp hpost
  exact Post.not_mem_lower_title hline hparsed

/-- Submitting never fails, so a run of the preview ends with its report. -/
theorem run_eq_report {arguments : List Bytes} {input : Bytes} {terms : List Text} {text : Text}
    (environment : Environment) (hparse : CommandLine.parse arguments = .ok terms)
    (htext : Utf8.text? input = some text) :
    run arguments input environment =
      { exitCode := 0
        output := report (CommandLine.query terms)
          ((page (.ofEnvironment environment) (posts text)).typed
            (CommandLine.query terms)).submit.page } := by
  unfold run submit
  rw [hparse, htext]
  simp only [Page.submit_typed_of_fresh _ (page_fragment _ _) visible_of_mem_page]

/-- **The preview agrees with the page.** For arguments that are query terms and an input that is
UTF-8, the preview prints some lines and nothing behind the last of them. A page of the same posts
that is opened at the first line and loaded loads without an error, has the query of the arguments
in its search field, and shows the entries of the titles in the other lines, in their order. It is
the page that the preview itself ended at. -/
theorem preview_agrees_with_page (arguments : List Bytes) (input : Bytes)
    (environment : Environment) (terms : List Text) (text : Text)
    (hparse : CommandLine.parse arguments = .ok terms) (htext : Utf8.text? input = some text) :
    let query := [' '].intercalate terms
    let fresh := page (.ofEnvironment environment) (posts text)
    let result := run arguments input environment
    result.exitCode = 0 ∧
      ∃ line titles, result.output.splitOn '\n' = line :: (titles ++ [[]]) ∧
        let loaded := (fresh.openWith line).load
        loaded.error? = none ∧
          loaded.page.searchText = query ∧
          loaded.page.shown.map (·.title) = titles ∧
          loaded = (fresh.typed query).submit := by
  intro query fresh result
  have hfragment : fresh.fragment = [] := page_fragment _ _
  have hshown : ∀ entry ∈ fresh.entries, entry.visible = true := visible_of_mem_page
  have hsearch : fresh.searchText = [] := congrArg Page.searchText (page_eq _ _)
  have hloaded := Page.load_printed_eq_submit query hsearch hfragment hshown
  have hsubmit := Page.submit_typed_of_fresh query hfragment hshown
  have hresult : result =
      { exitCode := 0, output := report query (fresh.typed query).submit.page } :=
    run_eq_report environment hparse htext
  have htitles : ∀ entry ∈ (fresh.typed query).submit.page.entries, '\n' ∉ entry.title := by
    rw [hsubmit]
    exact not_mem_title_of_posts
  refine ⟨congrArg Result.exitCode hresult, '#' :: Fragment.encode query,
    (fresh.typed query).submit.page.shown.map (·.title), ?_, ?_⟩
  · rw [hresult]
    exact splitOn_report query htitles
  · intro loaded
    have hsame : loaded = (fresh.typed query).submit := hloaded
    rw [hsame]
    refine ⟨?_, ?_, rfl, rfl⟩
    · rw [hsubmit]
    · rw [hsubmit]

/-- The query has reserved characters, a gap inside quotes and a letter beyond ASCII. The category
filter hides the second post, and the title of the third ends in a carriage return. -/
theorem preview_agrees_with_page_of_accents :
    let arguments := [Utf8.encode "é".toList, Utf8.encode "-category:\"#% b\"".toList]
    let input := "CAFÉ\n\nÉté\ta, #% B\nThé\r".toList
    let environment : Environment := .ofList []
    let fresh := page (.ofEnvironment environment) (posts input)
    let loaded := (fresh.openWith "#%C3%A9%20-category%3A%22%23%25%20b%22".toList).load
    (run arguments (Utf8.encode input) environment).output.splitOn '\n' =
        ["#%C3%A9%20-category%3A%22%23%25%20b%22".toList, "café".toList, "thé\r".toList, []] ∧
      loaded.page.searchText = "é -category:\"#% b\"".toList ∧
      loaded.page.shown.map (·.title) = ["café".toList, "thé\r".toList] := by
  intro arguments input environment fresh loaded
  have hread : (CommandLine.parse arguments).toOption =
      some ["é".toList, "-category:\"#% b\"".toList] := by
    decide +kernel
  have hparse : CommandLine.parse arguments =
      .ok ["é".toList, "-category:\"#% b\"".toList] := by
    cases hterms : CommandLine.parse arguments with
    | error notice =>
        rw [hterms] at hread
        cases hread
    | ok terms =>
        rw [hterms] at hread
        rw [Option.some.inj hread]
  obtain ⟨-, line, titles, houtput, hloaded⟩ := preview_agrees_with_page arguments
    (Utf8.encode input) environment _ input hparse (Utf8.text?_encode input)
  have hprinted : (run arguments (Utf8.encode input) environment).output.splitOn '\n' =
      ["#%C3%A9%20-category%3A%22%23%25%20b%22".toList, "café".toList, "thé\r".toList, []] := by
    decide +kernel
  rw [hprinted] at houtput
  obtain ⟨hline, hrest⟩ := List.cons.inj houtput
  have htitles : ["café".toList, "thé\r".toList] = titles := List.append_cancel_right hrest
  have hquery : [' '].intercalate ["é".toList, "-category:\"#% b\"".toList] =
      "é -category:\"#% b\"".toList := by
    decide
  rw [← hline, ← htitles] at hloaded
  exact ⟨hprinted, hloaded.2.1.trans hquery, hloaded.2.2.1⟩

end Preview

end ArchiveSearch
