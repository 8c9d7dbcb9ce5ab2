import ArchiveSearch.Proofs.LiteralSearch
import Mathlib.Data.List.Infix

/-!
# Searching in joined categories

An entry holds its categories in one text, and a category filter looks for its value anywhere in
that text. A value that shares no character with the separator cannot lie across one
(`infix_append_separator_iff`), so it is found in the joined text exactly if it is found in one of
the categories (`infix_intercalate_iff`). The categories themselves may hold the separator: what
stands left and right of it there belongs to the same category.
-/

namespace ArchiveSearch

/-- A word ends before a character that it does not hold. -/
theorem prefix_append_cons_iff {c : Char} {word : Text} (hword : c ∉ word) (before after : Text) :
    word <+: before ++ c :: after ↔ word <+: before := by
  induction before generalizing word with
  | nil =>
      rw [List.nil_append, List.prefix_nil]
      cases word with
      | nil => simp
      | cons d rest =>
          have hne : d ≠ c := fun heq => hword (List.mem_cons.mpr (.inl heq.symm))
          simp [List.cons_prefix_cons, hne]
  | cons b before ih =>
      cases word with
      | nil => simp
      | cons d rest =>
          have hrest : c ∉ rest := fun hmem => hword (List.mem_cons_of_mem d hmem)
          rw [List.cons_append, List.cons_prefix_cons, List.cons_prefix_cons, ih hrest]

/-- A word without some character that is found around this character is found on one side of it. -/
theorem infix_append_cons_iff {c : Char} {word : Text} (hword : c ∉ word) {before after : Text} :
    word <:+: before ++ c :: after ↔ word <:+: before ∨ word <:+: after := by
  induction before with
  | nil =>
      have hstart : word <+: c :: after ↔ word <+: [] := prefix_append_cons_iff hword [] after
      rw [List.nil_append, List.infix_cons_iff, hstart, List.prefix_nil, List.infix_nil]
  | cons b before ih =>
      have hstart : word <+: b :: (before ++ c :: after) ↔ word <+: b :: before :=
        prefix_append_cons_iff hword (b :: before) after
      rw [List.cons_append, List.infix_cons_iff, hstart, ih, List.infix_cons_iff, or_assoc]

/-- A word does not start in a text that it shares no character with. -/
theorem infix_append_of_apart_iff {start word : Text} (hword : ∀ c ∈ start, c ∉ word)
    {after : Text} : word <:+: start ++ after ↔ word <:+: after := by
  induction start with
  | nil => rfl
  | cons c rest ih =>
      have hc : c ∉ word := hword c List.mem_cons_self
      have hcut : word <:+: [] ++ c :: (rest ++ after) ↔ word <:+: [] ∨ word <:+: rest ++ after :=
        infix_append_cons_iff hc
      have hnil : word <:+: [] → word <:+: after := fun hempty => hempty.trans List.nil_infix
      rw [ih fun d hd => hword d (List.mem_cons_of_mem c hd)] at hcut
      exact hcut.trans (or_iff_right_of_imp hnil)

/-- A word that shares no character with a separator does not lie across it. -/
theorem infix_append_separator_iff {separator word : Text} (hseparator : separator ≠ [])
    (hword : ∀ c ∈ separator, c ∉ word) {before after : Text} :
    word <:+: before ++ (separator ++ after) ↔ word <:+: before ∨ word <:+: after := by
  cases separator with
  | nil => exact absurd rfl hseparator
  | cons c rest =>
      -- the first character cuts, and nothing starts in the others
      have hc : c ∉ word := hword c List.mem_cons_self
      have hrest : ∀ d ∈ rest, d ∉ word := fun d hd => hword d (List.mem_cons_of_mem c hd)
      rw [List.cons_append, infix_append_cons_iff hc, infix_append_of_apart_iff hrest]

/-- A word that shares no character with the separator is found in a list of texts joined exactly if
it is found in one of the texts. -/
theorem infix_intercalate_iff {separator word : Text} (hseparator : separator ≠ [])
    (hne : word ≠ []) (hword : ∀ c ∈ separator, c ∉ word) {texts : List Text} :
    word <:+: separator.intercalate texts ↔ ∃ text ∈ texts, word <:+: text := by
  induction texts with
  | nil => simp [hne]
  | cons text texts ih =>
      cases texts with
      | nil => simp
      | cons next texts =>
          rw [List.intercalate_cons_cons, List.append_assoc,
            infix_append_separator_iff hseparator hword, ih]
          simp

namespace Entry

/-- **No category is found across a boundary.** A category filter whose value is not empty and
shares no character with the separator lets the entry of a post pass exactly as the categories of
the post say, each lowercased by itself: one of them holds the value, and the filter does not
exclude, or none does, and it does. Categories may hold the separator, they may be empty, and there
may be none. -/
theorem category_filter_sees_categories (separator : Text) (post : Post) (filter : Filter)
    (hseparator : separator ≠ []) (hfield : filter.field = .category) (hvalue : filter.value ≠ [])
    (hapart : ∀ c ∈ filter.value, c ∉ separator) :
    filter.passes (ofPost separator post) = true ↔
      ((∃ category ∈ post.categories, filter.value <:+: Text.lower category) ↔
        filter.exclude = false) := by
  have hword : ∀ c ∈ separator, c ∉ filter.value := fun c hc hmem => hapart c hmem hc
  have hjoined : Candidate.textOf (ofPost separator post) filter.field =
      separator.intercalate (post.categories.map Text.lower) := by
    rw [hfield]
    rfl
  rw [Filter.passes_iff, hjoined, infix_intercalate_iff hseparator hvalue hword]
  simp only [List.mem_map, exists_exists_and_eq_and]

/-- Between two categories, one of them with the separator in it, stands an empty one. What the
value would be with the separators left out is in none of them; and without categories nothing is
found. -/
theorem category_filter_sees_categories_of_teas :
    let post : Post := ⟨[], ["A--B".toList, [], "İC".toList]⟩
    let across : Filter := ⟨true, .category, "bi".toList⟩
    let within : Filter := ⟨false, .category, "\u0307c".toList⟩
    across.value ≠ [] ∧ (∀ c ∈ across.value, c ∉ "--".toList) ∧
      across.passes (ofPost "--".toList post) = true ∧
      within.passes (ofPost "--".toList post) = true ∧
      within.passes (ofPost "--".toList ⟨[], []⟩) = false := by
  intro post across within
  have hdashes : "--".toList ≠ [] := List.cons_ne_nil _ _
  have hvalue : across.value ≠ [] := List.cons_ne_nil _ _
  have hdotted : within.value ≠ [] := List.cons_ne_nil _ _
  have hacross : ∀ c ∈ across.value, c ∉ "--".toList := by simp [across]
  have hwithin : ∀ c ∈ within.value, c ∉ "--".toList := by simp [within]
  refine ⟨hvalue, hacross, ?_, ?_, ?_⟩
  · rw [category_filter_sees_categories "--".toList post across hdashes rfl hvalue hacross]
    decide +kernel
  · rw [category_filter_sees_categories "--".toList post within hdashes rfl hdotted hwithin]
    decide +kernel
  · rw [← Bool.not_eq_true,
      category_filter_sees_categories "--".toList ⟨[], []⟩ within hdashes rfl hdotted hwithin]
    decide +kernel

/-- A value that shares a character with the separator is found where two categories meet. -/
example :
    let post : Post := ⟨[], ["tea".toList, "cake".toList]⟩
    let across : Filter := ⟨false, .category, "a, c".toList⟩
    across.passes (ofPost ", ".toList post) = true ∧
      ∀ category ∈ post.categories, ¬ across.value <:+: Text.lower category := by
  decide +kernel

end Entry

end ArchiveSearch
