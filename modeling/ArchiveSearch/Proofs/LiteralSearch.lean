import ArchiveSearch.Page.Entry
import ArchiveSearch.Proofs.FilterWriting
import ArchiveSearch.Proofs.FinalSigma

/-!
# Searching for what a post says

A word without gaps and quotes is one filter, as a plain term for the titles and behind `category:`
for the categories (`Query.filters_of_word`, `Query.filters_of_category_word`). The entry of a post
holds its texts in lower case, and the filter holds the word in lower case, each lowercased on its
own. So the word is found wherever it stands in the post, as far as it is lowercased there as it is
alone: wherever it keeps its sigmas.
-/

namespace ArchiveSearch

namespace Query

/-- A text without gaps and quotes, as it can be typed without quotes around. -/
structure IsWord (word : Text) : Prop where
  ne : word ≠ []
  plain : ∀ c ∈ word, c ≠ ' ' ∧ c ≠ '\t' ∧ c ≠ '"'

/-- A word stays in one raw token. -/
theorem IsWord.kept {word : Text} (h : IsWord word) :
    ∀ c ∈ word, c ≠ '"' ∧ (false = true ∨ isGap c = false) := by
  intro c hc
  obtain ⟨hspace, htab, hquote⟩ := h.plain c hc
  refine ⟨hquote, .inr ?_⟩
  simp [isGap, isTab, hspace, htab]

theorem IsWord.quote_not_mem {word : Text} (h : IsWord word) : '"' ∉ word :=
  fun hmem => (h.plain '"' hmem).2.2 rfl

/-- A word is one token, and it has no quotes to lose. -/
theorem tokens_of_word {word : Text} (h : IsWord word) : tokens word = [word] := by
  have hsplit : splitRaw false word = (word, []) := by
    simpa [splitRaw] using splitRaw_append_of_kept h.kept []
  have hhead : word.head? ≠ some '"' := fun hquote =>
    h.quote_not_mem (List.mem_of_mem_head? hquote)
  exact tokens_of_splitRaw_of_head h.ne hsplit hhead

/-- A word that is no written filter searches the titles. -/
theorem filters_of_word {word : Text} (h : IsWord word)
    (hplain : ∀ filter, readFilter word ≠ .ok filter) :
    filters word = [.lowered false .title word] := by
  cases hread : readFilter word with
  | ok filter => exact absurd hread (hplain filter)
  | error e => exact filters_of_plain_tokens (tokens_of_word h) hread

/-- Behind the name of the field and a colon a word searches the categories. -/
theorem filters_of_category_word {word : Text} (h : IsWord word) :
    filters ("category:".toList ++ word) = [.lowered false .category word] := by
  have hword : IsWord ("category:".toList ++ word) := by
    refine ⟨by simp, ?_⟩
    intro c hc
    rcases List.mem_append.mp hc with hname | hin
    · have hall : "category:".toList.all (fun c => c != ' ' && c != '\t' && c != '"') = true := by
        decide
      simpa [and_assoc] using List.all_eq_true.mp hall c hname
    · exact h.plain c hin
  have hread := readFilter_head_append ⟨false, .category, word⟩ h.ne
  rw [filter_isQuote_of_not_mem h.quote_not_mem] at hread
  exact filters_of_tokens (tokens_of_word hword) hread

end Query

/-- One filter shows what holds its value, or what does not if it excludes. -/
theorem isVisible_lowered_iff {α : Type} [Candidate α] {exclude : Bool} {field : Field}
    {value : Text} {candidate : α} :
    isVisible [.lowered exclude field value] candidate = true ↔
      (Text.lower value <:+: Candidate.textOf candidate field ↔ exclude = false) := by
  rw [isVisible_eq_all, List.all_cons, List.all_nil, Bool.and_true, Filter.passes_iff]
  rfl

/-- A candidate whose text holds a value is shown by the filter for it. -/
theorem isVisible_of_infix {α : Type} [Candidate α] {field : Field} {word : Text} {candidate : α}
    (h : Text.lower word <:+: Candidate.textOf candidate field) :
    isVisible [.lowered false field word] candidate = true :=
  isVisible_lowered_iff.mpr (iff_of_true h rfl)

namespace Entry

/-- **A post is found by what it says.** A word without gaps and quotes that stands in the title of
a post, and is no written filter, leaves the entry of the post visible; and so it does behind
`category:`, if it stands in one of the categories. The word must keep its sigmas where it stands:
its lowercase form is then a part of the lowered text. A word without a capital sigma does so
everywhere. -/
theorem word_finds_post (separator : Text) (post : Post) (word : Text)
    (hword : Query.IsWord word) :
    let entry := ofPost separator post
    let inCategories := "category:".toList ++ word
    (∀ before after, post.title = before ++ (word ++ after) →
      Text.KeepsSigmas before word after →
        (∀ filter, Query.readFilter word ≠ .ok filter) →
          isVisible (Query.filters word) entry = true) ∧
      (∀ category ∈ post.categories, ∀ before after, category = before ++ (word ++ after) →
        Text.KeepsSigmas before word after →
          isVisible (Query.filters inCategories) entry = true) ∧
      ('Σ' ∉ word → ∀ before after, Text.KeepsSigmas before word after) := by
  intro entry inCategories
  refine ⟨?_, ?_, Text.keepsSigmas_of_not_mem⟩
  · intro before after htitle hkeeps hplain
    rw [Query.filters_of_word hword hplain]
    apply isVisible_of_infix
    change Text.lower word <:+: Text.lower post.title
    rw [htitle]
    exact Text.lower_infix hkeeps
  · intro category hcategory before after hsplit hkeeps
    rw [Query.filters_of_category_word hword]
    apply isVisible_of_infix
    have hlowered : Text.lower category ∈ post.categories.map Text.lower :=
      List.mem_map.mpr ⟨category, hcategory, rfl⟩
    have hword : Text.lower word <:+: Text.lower category := by
      rw [hsplit]
      exact Text.lower_infix hkeeps
    exact hword.trans (infix_intercalate hlowered)

/-- The sigma of the word is final in the title and in the category too, though a letter stands
before the word and an apostrophe and a full stop behind it. -/
theorem word_finds_post_at_final_sigma :
    let post : Post := ⟨"Μ'ΟΣ'. İΣΑ".toList, ["news".toList, "ΡΟΣ!".toList]⟩
    let entry := ofPost "/".toList post
    Query.IsWord "ΟΣ".toList ∧
      isVisible (Query.filters "ΟΣ".toList) entry = true ∧
      isVisible (Query.filters "category:ΟΣ".toList) entry = true := by
  intro post entry
  have hword : Query.IsWord "ΟΣ".toList := ⟨by decide, by simp⟩
  have hplain : ∀ filter, Query.readFilter "ΟΣ".toList ≠ .ok filter := by
    intro filter hread
    cases hread
  have h := word_finds_post "/".toList post "ΟΣ".toList hword
  refine ⟨hword, ?_, ?_⟩
  · exact h.1 "Μ'".toList "'. İΣΑ".toList rfl (by decide +kernel) hplain
  · exact h.2.1 "ΡΟΣ!".toList (by simp [post]) "Ρ".toList "!".toList rfl (by decide +kernel)

/-- A word can miss a post that says it, letter for letter: `ΑΣ` ends in a final sigma, and where it
stands in `ΑΣΑ` the sigma is not final, in the title and in the category alike. -/
theorem word_misses_post_at_final_sigma :
    let word := "ΑΣ".toList
    let entry := ofPost ",".toList ⟨"ΑΣΑ".toList, ["ΑΣΑ".toList]⟩
    Query.IsWord word ∧ word <:+: "ΑΣΑ".toList ∧
      (∀ filter, Query.readFilter word ≠ .ok filter) ∧
      isVisible (Query.filters word) entry = false ∧
      isVisible (Query.filters ("category:".toList ++ word)) entry = false := by
  intro word entry
  refine ⟨⟨by decide, by simp [word]⟩, ⟨[], "Α".toList, rfl⟩, ?_, by decide +kernel,
    by decide +kernel⟩
  intro filter hread
  cases hread

end Entry

end ArchiveSearch
