import ArchiveSearch.Page.Post
import ArchiveSearch.Proofs.Trimming
import Mathlib.Data.List.Forall2

/-!
# Posts and their lines

A line is read by four steps: it is looked at as a whole, cut at its first tab, split at the commas
behind the tab, and the pieces are trimmed. Tabs are blank and may stand in a category, commas may
stand in a title, and a title is never trimmed. What comes of the steps is said without them: a post
stands on a line (`Post.IsOn`) if its title is what precedes the first tab and its categories are
what the pieces that are not blank trim to. Each line that is not blank has exactly one post on it
(`Post.ofLine?_eq_some_iff`), and a post that a line can hold (`Post.Writable`) stands on its own
line (`Post.isOn_line`).
-/

namespace ArchiveSearch.Post

/-- A category as it can stand between commas: it is not empty, it has no comma, and no blank
character stands at its ends. -/
structure IsCategory (category : Text) : Prop where
  ne : category ≠ []
  comma_not_mem : ',' ∉ category
  trimmed : Text.IsTrimmed category

/-- A post that a line can hold. -/
structure Writable (post : Post) : Prop where
  tab_not_mem : '\t' ∉ post.title
  isCategory : ∀ category ∈ post.categories, IsCategory category
  not_blank : Text.isBlank post.title = false ∨ post.categories ≠ []

/-- A text lists some categories: between its commas stand, in order, pieces that trim to them, and
blank pieces. -/
def Lists (listed : Text) (categories : List Text) : Prop :=
  ∃ pieces, listed = [','].intercalate pieces ∧ (∀ piece ∈ pieces, ',' ∉ piece) ∧
    List.Forall₂ Text.TrimsTo (pieces.filter (!Text.isBlank ·)) categories

/-- A post stands on a line: without a tab the line is its title and it has no categories, and else
the title stands before the first tab and the categories are listed behind it. -/
inductive IsOn : Text → Post → Prop
  | untabbed {line : Text} (htab : '\t' ∉ line) : IsOn line ⟨line, []⟩
  | tabbed {title listed : Text} {categories : List Text} (htab : '\t' ∉ title)
      (hlists : Lists listed categories) : IsOn (title ++ '\t' :: listed) ⟨title, categories⟩

/-- Texts that trim to some categories are told by trimming. -/
theorem map_trim_eq_iff {pieces categories : List Text} :
    pieces.map Text.trim = categories ↔ List.Forall₂ Text.TrimsTo pieces categories := by
  constructor
  · intro htrimmed
    rw [← htrimmed, List.forall₂_map_right_iff, List.forall₂_same]
    exact fun piece _ => Text.trimsTo_trim piece
  · intro htrims
    induction htrims with
    | nil => rfl
    | cons hfirst htail ih => rw [List.map_cons, hfirst.trim_eq, ih]

/-- Dropping what is empty when it is trimmed is dropping what is blank. -/
theorem categoriesOf_eq_map_trim (listed : Text) :
    categoriesOf listed = ((listed.splitOn ',').filter (!Text.isBlank ·)).map Text.trim := by
  have hempty : ∀ piece : Text, (Text.trim piece).isEmpty = Text.isBlank piece := by
    intro piece
    rw [Bool.eq_iff_iff, List.isEmpty_iff, Text.trim_eq_nil_iff]
  unfold categoriesOf
  rw [List.filter_map]
  congr 2
  funext piece
  rw [Function.comp_apply, hempty]

/-- The categories of a list are those that the list spells, in order. -/
theorem categoriesOf_eq_iff {listed : Text} {categories : List Text} :
    categoriesOf listed = categories ↔ Lists listed categories := by
  rw [categoriesOf_eq_map_trim, map_trim_eq_iff]
  constructor
  · intro htrims
    exact ⟨listed.splitOn ',', (List.intercalate_splitOn ',').symm,
      fun _ => not_mem_of_mem_splitOn, htrims⟩
  · intro hlists
    obtain ⟨pieces, rfl, hcomma, htrims⟩ := hlists
    by_cases hne : pieces = []
    · rw [hne] at htrims ⊢
      exact htrims
    · rwa [List.splitOn_intercalate ',' hcomma hne]

/-- The lines without a post are the blank ones. -/
theorem ofLine?_eq_none_iff {line : Text} :
    ofLine? line = none ↔ ∀ c ∈ line, Text.isBlankChar c = true := by
  rw [← Text.isBlank_iff]
  unfold ofLine?
  by_cases hblank : Text.isBlank line = true
  · simp [hblank]
  · rw [if_neg hblank]
    cases cutAt? '\t' line <;> simp [hblank]

/-- Every line that is not blank is read as the one post that stands on it. -/
theorem ofLine?_eq_some_iff {line : Text} {post : Post} :
    ofLine? line = some post ↔ Text.isBlank line = false ∧ IsOn line post := by
  unfold ofLine?
  by_cases hblank : Text.isBlank line = true
  · simp [hblank]
  · rw [if_neg hblank]
    have hshown : Text.isBlank line = false := by simpa using hblank
    constructor
    · intro hread
      refine ⟨hshown, ?_⟩
      cases hcut : cutAt? '\t' line with
      | none =>
          rw [hcut] at hread
          cases hread
          exact .untabbed (cutAt?_eq_none_iff.mp hcut)
      | some parts =>
          rw [hcut] at hread
          cases hread
          obtain ⟨hline, htab⟩ := cutAt?_eq_some_iff.mp hcut
          rw [hline]
          exact .tabbed htab (categoriesOf_eq_iff.mp rfl)
    · intro hon
      cases hon.2 with
      | untabbed htab => rw [cutAt?_eq_none_iff.mpr htab]
      | tabbed htab hlists =>
          rw [cutAt?_eq_some_iff.mpr ⟨rfl, htab⟩]
          simp only [categoriesOf_eq_iff.mpr hlists]

theorem IsOn.tab_not_mem {line : Text} {post : Post} (h : IsOn line post) : '\t' ∉ post.title := by
  cases h with
  | untabbed htab => exact htab
  | tabbed htab _ => exact htab

/-- What is listed can be listed again. -/
theorem Lists.isCategory {listed : Text} {categories : List Text} (h : Lists listed categories) :
    ∀ category ∈ categories, IsCategory category := by
  obtain ⟨pieces, -, hcomma, htrims⟩ := h
  obtain rfl := map_trim_eq_iff.mpr htrims
  intro category hcategory
  obtain ⟨piece, hpiece, rfl⟩ := List.mem_map.mp hcategory
  obtain ⟨hmem, hshown⟩ := List.mem_filter.mp hpiece
  obtain ⟨⟨before, after, htext, -, -⟩, htrimmed⟩ := Text.trimsTo_trim piece
  refine ⟨?_, ?_, htrimmed⟩
  · intro hnil
    rw [Text.trim_eq_nil_iff.mp hnil] at hshown
    cases hshown
  · intro hin
    apply hcomma piece hmem
    rw [htext]
    exact List.mem_append_right _ (List.mem_append_left _ hin)

/-- The categories on a line are such as can be written on one. -/
theorem IsOn.isCategory {line : Text} {post : Post} (h : IsOn line post) :
    ∀ category ∈ post.categories, IsCategory category := by
  cases h with
  | untabbed htab => simp
  | tabbed htab hlists => exact hlists.isCategory

theorem IsCategory.isBlank_eq_false {category : Text} (h : IsCategory category) :
    Text.isBlank category = false :=
  h.trimmed.isBlank_eq_false h.ne

/-- Categories with commas between them are listed as they are. -/
theorem lists_intercalate {categories : List Text}
    (h : ∀ category ∈ categories, IsCategory category) :
    Lists ([','].intercalate categories) categories := by
  have hall : categories.filter (!Text.isBlank ·) = categories := by
    rw [List.filter_eq_self]
    intro category hcategory
    rw [(h category hcategory).isBlank_eq_false]
    rfl
  refine ⟨categories, rfl, fun category hcategory => (h category hcategory).comma_not_mem, ?_⟩
  rw [hall, List.forall₂_same]
  exact fun category hcategory => (h category hcategory).trimmed.trimsTo

/-- The line of a post is blank if nothing on it can be seen: its title is blank, and no category
follows. -/
theorem isBlank_line_iff {post : Post} (h : ∀ category ∈ post.categories, IsCategory category) :
    Text.isBlank post.line = true ↔ Text.isBlank post.title = true ∧ post.categories = [] := by
  have hline : Text.isBlank post.line =
      (Text.isBlank post.title && Text.isBlank ([','].intercalate post.categories)) :=
    Text.isBlank_append post.title _
  have hlisted :
      Text.isBlank ([','].intercalate post.categories) = true ↔ post.categories = [] := by
    constructor
    · intro hblank
      rw [List.eq_nil_iff_forall_not_mem]
      intro category hcategory
      have hshown := (h category hcategory).isBlank_eq_false
      rw [Text.isBlank_of_infix (infix_intercalate hcategory) hblank] at hshown
      cases hshown
    · intro hnil
      rw [hnil]
      rfl
  rw [hline, Bool.and_eq_true, hlisted]

/-- A post without a tab in its title stands on its line. -/
theorem isOn_line {post : Post} (htab : '\t' ∉ post.title)
    (h : ∀ category ∈ post.categories, IsCategory category) : IsOn post.line post :=
  .tabbed htab (lists_intercalate h)

/-- A post is read back from its line, unless nothing can be seen there. -/
theorem ofLine?_line {post : Post} (h : post.Writable) : ofLine? post.line = some post := by
  rw [ofLine?_eq_some_iff]
  refine ⟨?_, isOn_line h.tab_not_mem h.isCategory⟩
  rw [← Bool.not_eq_true, isBlank_line_iff h.isCategory]
  intro hnothing
  obtain ⟨hblank, hnil⟩ := hnothing
  rcases h.not_blank with hshown | hne
  · rw [hblank] at hshown
    cases hshown
  · exact hne hnil

/-- **Posts are read from their lines as they are written.** A post that a line can hold is read
back from its line. And on every line: only a blank line holds no post; any other holds the one post
that stands on it, whose categories can all be listed again, and that is written and read back as it
is, unless its title is blank and it has no categories, for then its line is blank. -/
theorem lines_are_read_as_written (post : Post) (line : Text) :
    (post.Writable → ofLine? post.line = some post) ∧
      (ofLine? line = none ↔ ∀ c ∈ line, Text.isBlankChar c = true) ∧
      (∀ read, ofLine? line = some read ↔
        (∃ c ∈ line, Text.isBlankChar c = false) ∧ IsOn line read) ∧
      ∀ read, ofLine? line = some read →
        (∀ category ∈ read.categories, IsCategory category) ∧
          (¬ (Text.isBlank read.title = true ∧ read.categories = []) →
            ofLine? read.line = some read) ∧
          (Text.isBlank read.title = true ∧ read.categories = [] → ofLine? read.line = none) := by
  have hshown : (∃ c ∈ line, Text.isBlankChar c = false) ↔ Text.isBlank line = false := by
    rw [Text.isBlank, List.all_eq_false]
    simp only [Bool.not_eq_true]
  refine ⟨ofLine?_line, ofLine?_eq_none_iff, ?_, ?_⟩
  · intro read
    rw [hshown]
    exact ofLine?_eq_some_iff
  · intro read hread
    have hon := (ofLine?_eq_some_iff.mp hread).2
    refine ⟨hon.isCategory, ?_, ?_⟩
    · intro hseen
      refine ofLine?_line ⟨hon.tab_not_mem, hon.isCategory, ?_⟩
      rwa [Decidable.not_and_iff_not_or_not, Bool.not_eq_true] at hseen
    · intro hnothing
      rw [ofLine?_eq_none_iff, ← Text.isBlank_iff]
      exact (isBlank_line_iff hon.isCategory).mpr hnothing

/-- The title has a comma and blank ends, and tabs stand inside categories; between the commas of
the second line are blank pieces. Of the third line only commas can be seen, and they are not
written back. -/
theorem lines_are_read_as_written_of_teas :
    let post : Post := ⟨" green, black ".toList, ["hot\tdrinks".toList, "té".toList]⟩
    let line := "\u00A0\t , hot\tdrinks\u2003,,".toList
    let read : Post := ⟨"\u00A0".toList, ["hot\tdrinks".toList]⟩
    let bare : Post := ⟨"\u00A0".toList, []⟩
    post.Writable ∧ ofLine? post.line = some post ∧
      ofLine? line = some read ∧ ofLine? read.line = some read ∧
      ofLine? "\u00A0\t, ,".toList = some bare ∧ ofLine? bare.line = none := by
  intro post line read bare
  have hpost : post.Writable := by
    refine ⟨by decide, ?_, .inl (by decide +kernel)⟩
    simp only [post, List.forall_mem_cons, List.not_mem_nil, false_imp_iff, implies_true, and_true]
    exact ⟨⟨by decide, by decide, by decide +kernel⟩, ⟨by decide, by decide, by decide +kernel⟩⟩
  have hread : ofLine? line = some read := by decide +kernel
  have hbare : ofLine? "\u00A0\t, ,".toList = some bare := by decide +kernel
  refine ⟨hpost, ?_, hread, ?_, hbare, ?_⟩
  · exact (lines_are_read_as_written post line).1 hpost
  · refine ((lines_are_read_as_written post line).2.2.2 read hread).2.1 ?_
    decide
  · refine ((lines_are_read_as_written post "\u00A0\t, ,".toList).2.2.2 bare hbare).2.2 ?_
    decide +kernel

end ArchiveSearch.Post
