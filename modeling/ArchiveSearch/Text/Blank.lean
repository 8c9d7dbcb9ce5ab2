import ArchiveSearch.Text.Basic

/-!
# Blank characters

The characters of the Unicode property White_Space, and the text that is left when they are taken
off both ends. All of core's white space is blank (`isBlankChar_of_isWhitespace`), and so are the
vertical tab, the form feed, the no-break spaces and the spaces of typography.
-/

namespace ArchiveSearch.Text

/-- The property White_Space, as ranges of scalar values, both ends included. -/
def blankRanges : List (Nat × Nat) :=
  [(0x09, 0x0D), (0x20, 0x20), (0x85, 0x85), (0xA0, 0xA0), (0x1680, 0x1680), (0x2000, 0x200A),
    (0x2028, 0x2029), (0x202F, 0x202F), (0x205F, 0x205F), (0x3000, 0x3000)]

/-- Whether a character has the property White_Space. -/
def isBlankChar (c : Char) : Bool :=
  blankRanges.any fun range => range.1 ≤ c.toNat && c.toNat ≤ range.2

theorem isBlankChar_of_isWhitespace (c : Char) (h : c.isWhitespace = true) :
    isBlankChar c = true := by
  simp only [Char.isWhitespace, Bool.or_eq_true, decide_eq_true_eq] at h
  rcases h with ((rfl | rfl) | rfl) | rfl <;> decide

/-- A text is blank when all its characters are. -/
def isBlank (text : Text) : Bool :=
  text.all isBlankChar

/-- A text without the blank characters at its two ends. -/
def trim (text : Text) : Text :=
  ((text.dropWhile isBlankChar).reverse.dropWhile isBlankChar).reverse

end ArchiveSearch.Text
