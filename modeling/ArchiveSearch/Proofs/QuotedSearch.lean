import ArchiveSearch.Proofs.LiteralSearch

/-!
# Searching for a whole text

A title or a category can be asked for as it stands, with its gaps, colons, hyphens and line feeds,
if it is put in quotes behind the name of the field. Such a query is one filter, for the lowercase
form of what is in the quotes (`Query.filters_quotedText`), and the same with a hyphen in front says
the opposite (`isVisible_quotedText_of_infix`). The entry of a post has the title lowercased by
itself and each category lowercased by itself, and so the lowercase form asked for is the one that
is stored: a whole text is always found, while a word of it may change a sigma.
-/

namespace ArchiveSearch

/-- A value in quotes is one filter, whatever the case of the value. -/
theorem Query.filters_quotedText {filter : Filter} (h : '"' ∉ filter.value) :
    filters filter.quotedText = [.lowered filter.exclude filter.field filter.value] :=
  filters_of_tokens (tokens_quotedText h) (readFilter_quotedText_of_not_mem h)

/-- The queries for a value that a candidate holds, with and without a hyphen. -/
theorem isVisible_quotedText_of_infix {α : Type} [Candidate α] {field : Field} {value : Text}
    {candidate : α} (hvalue : '"' ∉ value)
    (h : Text.lower value <:+: Candidate.textOf candidate field) :
    isVisible (Query.filters (Filter.quotedText ⟨false, field, value⟩)) candidate = true ∧
      isVisible (Query.filters (Filter.quotedText ⟨true, field, value⟩)) candidate = false := by
  rw [Query.filters_quotedText hvalue, Query.filters_quotedText hvalue]
  constructor
  · exact isVisible_of_infix h
  · rw [← Bool.not_eq_true, isVisible_lowered_iff]
    intro hsame
    cases hsame.mp h

namespace Entry

/-- **A post is found by its own title and by each of its categories.** Whatever else they hold, as
long as it is no quote, the title in quotes behind `title:` and a category in quotes behind
`category:` leave the entry of the post visible, and with a hyphen in front they hide it. -/
theorem own_texts_find_post (separator : Text) (post : Post) :
    let entry := ofPost separator post
    let quoted (name value : Text) := name ++ value ++ "\"".toList
    ('"' ∉ post.title →
      isVisible (Query.filters (quoted "title:\"".toList post.title)) entry = true ∧
        isVisible (Query.filters (quoted "-title:\"".toList post.title)) entry = false) ∧
      ∀ category ∈ post.categories, '"' ∉ category →
        isVisible (Query.filters (quoted "category:\"".toList category)) entry = true ∧
          isVisible (Query.filters (quoted "-category:\"".toList category)) entry = false := by
  intro entry quoted
  constructor
  · intro htitle
    have hstored : Text.lower post.title <:+: Candidate.textOf entry .title := List.infix_rfl
    have hshows : quoted "title:\"".toList post.title =
        Filter.quotedText ⟨false, .title, post.title⟩ := rfl
    have hhides : quoted "-title:\"".toList post.title =
        Filter.quotedText ⟨true, .title, post.title⟩ := rfl
    rw [hshows, hhides]
    exact isVisible_quotedText_of_infix htitle hstored
  · intro category hcategory hunquoted
    have hlowered : Text.lower category ∈ post.categories.map Text.lower :=
      List.mem_map.mpr ⟨category, hcategory, rfl⟩
    have hstored : Text.lower category <:+: Candidate.textOf entry .category :=
      infix_intercalate hlowered
    have hshows : quoted "category:\"".toList category =
        Filter.quotedText ⟨false, .category, category⟩ := rfl
    have hhides : quoted "-category:\"".toList category =
        Filter.quotedText ⟨true, .category, category⟩ := rfl
    rw [hshows, hhides]
    exact isVisible_quotedText_of_infix hunquoted hstored

/-- The title looks like an excluding filter, with a tab, a line feed and sigmas of both kinds; and
the category stands between an empty one and one that holds the separator. -/
theorem own_texts_find_post_like_queries :
    let title := "-category:\tΣΑΣ Σ\n".toList
    let category := "ΟΔΟΣ, İ".toList
    let entry := ofPost ", ".toList ⟨title, [[], category, "a, b".toList]⟩
    let titleQuery := "title:\"-category:\tΣΑΣ Σ\n\"".toList
    let categoryQuery := "category:\"ΟΔΟΣ, İ\"".toList
    '"' ∉ title ∧ '"' ∉ category ∧
      isVisible (Query.filters titleQuery) entry = true ∧
      isVisible (Query.filters ('-' :: titleQuery)) entry = false ∧
      isVisible (Query.filters categoryQuery) entry = true ∧
      isVisible (Query.filters ('-' :: categoryQuery)) entry = false := by
  intro title category entry titleQuery categoryQuery
  have htitle : '"' ∉ title := by decide
  have hcategory : '"' ∉ category := by decide
  have hmem : category ∈ [[], category, "a, b".toList] := by simp
  have h := own_texts_find_post ", ".toList ⟨title, [[], category, "a, b".toList]⟩
  have htitles := h.1 htitle
  have hcategories := h.2 category hmem hcategory
  have htitleQuery : titleQuery = "title:\"".toList ++ title ++ "\"".toList := by decide
  have hcategoryQuery : categoryQuery = "category:\"".toList ++ category ++ "\"".toList := by decide
  rw [htitleQuery, hcategoryQuery]
  exact ⟨htitle, hcategory, htitles.1, htitles.2, hcategories.1, hcategories.2⟩

end Entry

end ArchiveSearch
