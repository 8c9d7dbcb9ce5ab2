import ArchiveSearch.Text.Blank
import Mathlib.Data.List.TakeWhile

/-!
# Trimmed texts

Trimming takes the blank characters off both ends of a text and nothing else, and so it is said
without an order of the two ends: a text trims to the one text that stands in it between blank ones
and that neither starts nor ends with a blank character (`Text.TrimsTo`). That text is the one that
`Text.trim` gives (`Text.trimsTo_trim`, `Text.TrimsTo.trim_eq`). It is empty exactly for a blank
text.
-/

namespace ArchiveSearch.Text

/-- A text is blank if all its characters are; the empty text is one. -/
theorem isBlank_iff {text : Text} : isBlank text = true ↔ ∀ c ∈ text, isBlankChar c = true :=
  List.all_eq_true

theorem isBlank_append (text other : Text) :
    isBlank (text ++ other) = (isBlank text && isBlank other) :=
  List.all_append

/-- What stands in a blank text is blank. -/
theorem isBlank_of_infix {text other : Text} (h : text <:+: other) (hblank : isBlank other = true) :
    isBlank text = true :=
  isBlank_iff.mpr fun c hc => isBlank_iff.mp hblank c (h.subset hc)

/-- No blank character stands at either end of a text. -/
structure IsTrimmed (text : Text) : Prop where
  head : ∀ c ∈ text.head?, isBlankChar c = false
  last : ∀ c ∈ text.getLast?, isBlankChar c = false

/-- What is left of a text without the blank texts around it. -/
structure TrimsTo (text core : Text) : Prop where
  between : ∃ before after, text = before ++ (core ++ after) ∧ isBlank before = true ∧
    isBlank after = true
  trimmed : IsTrimmed core

theorem isTrimmed_nil : IsTrimmed [] :=
  ⟨by simp, by simp⟩

/-- A trimmed text trims to itself. -/
theorem IsTrimmed.trimsTo {text : Text} (h : IsTrimmed text) : TrimsTo text text :=
  ⟨⟨[], [], (List.append_nil text).symm, rfl, rfl⟩, h⟩

/-- A text that holds more than nothing and is trimmed holds a character that is not blank. -/
theorem IsTrimmed.isBlank_eq_false {text : Text} (h : IsTrimmed text) (hne : text ≠ []) :
    isBlank text = false := by
  cases text with
  | nil => exact absurd rfl hne
  | cons c rest =>
      have hc : isBlankChar c = false := h.head c rfl
      rw [isBlank, List.all_cons, hc, Bool.false_and]

/-- Nothing is dropped from the front of a text that starts with no blank character. -/
theorem dropWhile_of_head {text : Text} (h : ∀ c ∈ text.head?, isBlankChar c = false) :
    text.dropWhile isBlankChar = text := by
  cases text with
  | nil => rfl
  | cons c rest =>
      have hc : isBlankChar c = false := h c rfl
      exact List.dropWhile_cons_of_neg (by simp [hc])

/-- Without the blank characters at its front a text starts with none. -/
theorem head_dropWhile (text : Text) :
    ∀ c ∈ (text.dropWhile isBlankChar).head?, isBlankChar c = false := by
  intro c hc
  have hnot := List.head?_dropWhile_not isBlankChar text
  rw [Option.mem_def.mp hc] at hnot
  exact hnot

/-- Behind the blank start of a text stand the trimmed text and a blank end. -/
theorem exists_dropWhile_eq_trim_append (text : Text) :
    ∃ after, text.dropWhile isBlankChar = trim text ++ after ∧ isBlank after = true := by
  refine ⟨((text.dropWhile isBlankChar).reverse.takeWhile isBlankChar).reverse, ?_, ?_⟩
  · rw [trim, ← List.reverse_append, List.takeWhile_append_dropWhile, List.reverse_reverse]
  · rw [isBlank, List.all_reverse]
    exact List.all_takeWhile

/-- Trimming leaves no blank character at either end. -/
theorem isTrimmed_trim (text : Text) : IsTrimmed (trim text) := by
  constructor
  · intro c hc
    obtain ⟨after, hstart, -⟩ := exists_dropWhile_eq_trim_append text
    obtain ⟨rest, hrest⟩ := List.head?_eq_some_iff.mp hc
    apply head_dropWhile text c
    rw [hstart, hrest]
    rfl
  · intro c hc
    rw [trim, List.getLast?_reverse] at hc
    exact head_dropWhile (text.dropWhile isBlankChar).reverse c hc

/-- Trimming takes a blank text off either end, and what it leaves is trimmed. -/
theorem trimsTo_trim (text : Text) : TrimsTo text (trim text) := by
  obtain ⟨after, hstart, hafter⟩ := exists_dropWhile_eq_trim_append text
  refine ⟨⟨text.takeWhile isBlankChar, after, ?_, List.all_takeWhile, hafter⟩, isTrimmed_trim text⟩
  rw [← hstart]
  exact List.takeWhile_append_dropWhile.symm

/-- A text trims to one text only. -/
theorem TrimsTo.trim_eq {text core : Text} (h : TrimsTo text core) : trim text = core := by
  obtain ⟨⟨before, after, rfl, hbefore, hafter⟩, htrimmed⟩ := h
  unfold trim
  rw [List.dropWhile_append_of_pos (isBlank_iff.mp hbefore)]
  -- an empty core leaves the blank end to the first pass, any other stops it
  cases core with
  | nil =>
      have hnone : after.dropWhile isBlankChar = [] :=
        List.dropWhile_eq_nil_iff.mpr (isBlank_iff.mp hafter)
      rw [List.nil_append, hnone]
      rfl
  | cons c rest =>
      have hfront : (c :: rest ++ after).dropWhile isBlankChar = c :: rest ++ after :=
        dropWhile_of_head htrimmed.head
      have hback : (c :: rest).reverse.dropWhile isBlankChar = (c :: rest).reverse := by
        apply dropWhile_of_head
        rw [List.head?_reverse]
        exact htrimmed.last
      have hblank : ∀ d ∈ after.reverse, isBlankChar d = true := by
        intro d hd
        exact isBlank_iff.mp hafter d (List.mem_reverse.mp hd)
      rw [hfront, List.reverse_append, List.dropWhile_append_of_pos hblank, hback,
        List.reverse_reverse]

/-- The trimmed texts are those that trimming leaves as they are. -/
theorem isTrimmed_iff {text : Text} : IsTrimmed text ↔ trim text = text := by
  constructor
  · intro htrimmed
    exact htrimmed.trimsTo.trim_eq
  · intro heq
    rw [← heq]
    exact isTrimmed_trim text

instance (text : Text) : Decidable (IsTrimmed text) :=
  decidable_of_iff _ isTrimmed_iff.symm

/-- Trimming leaves nothing of blank texts and of no others. -/
theorem trim_eq_nil_iff {text : Text} : trim text = [] ↔ isBlank text = true := by
  constructor
  · intro hnil
    obtain ⟨before, after, htext, hbefore, hafter⟩ := (trimsTo_trim text).between
    rw [htext, hnil, List.nil_append, isBlank_append, hbefore, hafter]
    rfl
  · intro hblank
    have hnothing : TrimsTo text [] :=
      ⟨⟨text, [], by simp, hblank, rfl⟩, isTrimmed_nil⟩
    exact hnothing.trim_eq

end ArchiveSearch.Text
