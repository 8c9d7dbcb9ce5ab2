import ArchiveSearch.Text.Entity

/-!
# Escaped texts

Escaping takes from a text every character that could end the quotes around it or a tag
(`Text.not_mem_escape`), and it can be undone, also where the text looks like an entity already
(`Text.unescape_escape`). So an escaped text ends at the first quote behind it
(`Text.escape_append_inj`), which is how the texts in the markup of a page are found again.
-/

namespace ArchiveSearch

namespace Text

/-- Whether a character ends a quoted attribute, or starts or ends a tag. -/
def IsDelimiter (c : Char) : Prop :=
  c = '"' ∨ c = '<' ∨ c = '>'

/-- The escaped form of a character has no delimiter in it. -/
theorem not_mem_escapeChar {c : Char} (hc : IsDelimiter c) (d : Char) : c ∉ escapeChar d := by
  have hentities : c ∉ "&amp;".toList ∧ c ∉ "&quot;".toList ∧ c ∉ "&lt;".toList ∧
      c ∉ "&gt;".toList := by
    rcases hc with rfl | rfl | rfl <;> decide
  unfold escapeChar
  split
  · exact hentities.1
  · exact hentities.2.1
  · exact hentities.2.2.1
  · exact hentities.2.2.2
  · rename_i _ hquote hless hgreater
    rw [List.mem_singleton]
    rintro rfl
    rcases hc with h | h | h
    · exact hquote h
    · exact hless h
    · exact hgreater h

/-- No delimiter is left in an escaped text. -/
theorem not_mem_escape {c : Char} (hc : IsDelimiter c) (text : Text) : c ∉ escape text := by
  intro hmem
  obtain ⟨d, -, hd⟩ := List.mem_flatMap.mp hmem
  exact not_mem_escapeChar hc d hd

theorem count_escape {c : Char} (hc : IsDelimiter c) (text : Text) : (escape text).count c = 0 :=
  List.count_eq_zero.mpr (not_mem_escape hc text)

/-- Only an ampersand starts an entity. -/
theorem unescape_cons_of_ne {c : Char} (hc : c ≠ '&') (rest : Text) :
    unescape (c :: rest) = c :: unescape rest := by
  rw [unescape]
  all_goals
    intro rest' hampersand
    exact absurd hampersand hc

/-- The escaped form of a character is read back, whatever follows it. -/
theorem unescape_escapeChar_append (c : Char) (rest : Text) :
    unescape (escapeChar c ++ rest) = c :: unescape rest := by
  unfold escapeChar
  split
  · rfl
  · rfl
  · rfl
  · rfl
  · rename_i hampersand _ _ _
    exact unescape_cons_of_ne hampersand rest

/-- Replacing the entities of an escaped text back gives the text. -/
theorem unescape_escape (text : Text) : unescape (escape text) = text := by
  induction text with
  | nil => rfl
  | cons c text ih =>
      have hcons : escape (c :: text) = escapeChar c ++ escape text := List.flatMap_cons
      rw [hcons, unescape_escapeChar_append, ih]

/-- No two texts have the same escaped form. -/
theorem escape_injective : Function.Injective escape :=
  Function.LeftInverse.injective unescape_escape

/-- The first quote behind an escaped text ends it, so the text can be told from what follows. -/
theorem escape_append_inj {text other rest rest' : Text}
    (h : escape text ++ '"' :: rest = escape other ++ '"' :: rest') :
    text = other ∧ rest = rest' := by
  have hquote : ∀ value, '"' ∉ escape value := not_mem_escape (.inl rfl)
  obtain ⟨htext, hrest⟩ := append_separator_inj (hquote text) (hquote other) h
  exact ⟨escape_injective htext, hrest⟩

end Text

end ArchiveSearch
