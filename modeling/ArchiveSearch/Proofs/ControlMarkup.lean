import ArchiveSearch.Page.Event
import ArchiveSearch.Proofs.Entity

/-!
# Markup of the search controls

The search text comes from outside, through the search field or through the fragment of a location,
and stands in the page between two quotes, escaped. So the quotes and brackets of the controls are
those of their template (`Config.count_controls`), and between them the pieces stand where they
belong (`Config.splitOn_controls`).
-/

namespace ArchiveSearch

namespace Config

/-- The delimiters in the controls are those of the template, which has no text in it. -/
theorem count_controls {c : Char} (hc : Text.IsDelimiter c) (config : Config) (text : Text) :
    (config.controls text).count c =
      (controls { fieldId := [], submitId := [] } []).count c := by
  unfold controls attributeText
  simp only [List.count_append, Text.count_escape hc]

/-- The pieces of the controls before, between and after their quotes. -/
def controlPieces (config : Config) (text : Text) : List Text :=
  ["<input type=".toList, "text".toList, " id=".toList, Text.escape config.fieldId,
    " value=".toList, Text.escape text, "><button id=".toList, Text.escape config.submitId,
    ">Search</button>".toList]

/-- The controls are their pieces with a quote between every two of them. -/
theorem controls_eq_intercalate (config : Config) (text : Text) :
    config.controls text = ['"'].intercalate (config.controlPieces text) := by
  unfold controls attributeText controlPieces
  simp only [List.intercalate_cons_cons, List.intercalate_singleton, List.append_assoc]
  rfl

theorem quote_not_mem_controlPieces (config : Config) (text : Text) :
    ∀ piece ∈ config.controlPieces text, '"' ∉ piece := by
  have hquote : ∀ value, '"' ∉ Text.escape value := Text.not_mem_escape (.inl rfl)
  simp only [controlPieces, List.forall_mem_cons, hquote, not_false_eq_true, true_and]
  decide

/-- No text adds a piece to the controls or moves one. -/
theorem splitOn_controls (config : Config) (text : Text) :
    (config.controls text).splitOn '"' = config.controlPieces text := by
  rw [controls_eq_intercalate]
  exact List.splitOn_intercalate '"' (quote_not_mem_controlPieces config text)
    (List.cons_ne_nil _ _)

end Config

namespace Page

/-- Between the fifth and the sixth quote of the controls stands the search text, escaped. -/
theorem getElem?_splitOn_controls (page : Page) :
    (page.controls.splitOn '"')[5]? = some (Text.escape page.searchText) := by
  unfold controls
  rw [Config.splitOn_controls]
  rfl

/-- **No search text breaks the controls.** Whatever page it was and whatever happened to it, the
search controls have eight quotes and three brackets of either kind, and the text between the fifth
and the sixth quote, with its entities replaced back, is the search text of the page. So pages that
have the same controls have the same search text. -/
theorem controls_hold_search_text (page : Page) (events : List Event) :
    let reached := page.run events
    (reached.controls.count '"' = 8 ∧ reached.controls.count '<' = 3 ∧
        reached.controls.count '>' = 3) ∧
      (∃ content, (reached.controls.splitOn '"')[5]? = some content ∧
        Text.unescape content = reached.searchText) ∧
      ∀ (other : Page) (others : List Event), (other.run others).controls = reached.controls →
        (other.run others).searchText = reached.searchText := by
  intro reached
  refine ⟨⟨?_, ?_, ?_⟩, ?_, ?_⟩
  · exact Config.count_controls (.inl rfl) _ _
  · exact Config.count_controls (.inr (.inl rfl)) _ _
  · exact Config.count_controls (.inr (.inr rfl)) _ _
  · exact ⟨_, getElem?_splitOn_controls reached, Text.unescape_escape _⟩
  · intro other others hsame
    have hcontent := getElem?_splitOn_controls (other.run others)
    rw [hsame, getElem?_splitOn_controls reached] at hcontent
    exact (Text.escape_injective (Option.some.inj hcontent)).symm

/-- The search text starts like the end of the field and goes on with an entity. One page has it
from the fragment that it was opened at, the other from its reader, after a navigation that
failed. -/
theorem controls_hold_search_text_of_entities :
    let page : Page := { config := { fieldId := "search\"text".toList } }
    let loaded := page.run [.openWith "#%22%3E%26quot;".toList, .load]
    let typed := page.run [.navigate "tea%2".toList, .typed "\">&quot;".toList]
    typed.controls = loaded.controls ∧ loaded.controls.count '"' = 8 ∧
      (loaded.controls.splitOn '"')[5]? = some "&quot;&gt;&amp;quot;".toList ∧
      Text.unescape "&quot;&gt;&amp;quot;".toList = loaded.searchText ∧
      typed.searchText = loaded.searchText := by
  intro page loaded typed
  obtain ⟨hcounts, ⟨content, hcontent, htext⟩, hinjective⟩ :=
    controls_hold_search_text page [.openWith "#%22%3E%26quot;".toList, .load]
  have hsame : typed.controls = loaded.controls := by decide +kernel
  have hpiece : (loaded.controls.splitOn '"')[5]? = some "&quot;&gt;&amp;quot;".toList := by
    decide +kernel
  rw [hpiece] at hcontent
  cases hcontent
  exact ⟨hsame, hcounts.1, hpiece, htext, hinjective page _ hsame⟩

end Page

end ArchiveSearch
