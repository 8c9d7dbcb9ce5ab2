import ArchiveSearch.Text.Basic

/-!
# Entities

The four characters that mean something inside a quoted attribute of a page are written as
entities. `escape` writes them, and `unescape` replaces the four entities back in one pass from the
left, so that a text which already looks like an entity keeps its looks.
-/

namespace ArchiveSearch.Text

/-- A character as it is written inside a quoted attribute. -/
def escapeChar (c : Char) : Text :=
  match c with
  | '&' => "&amp;".toList
  | '"' => "&quot;".toList
  | '<' => "&lt;".toList
  | '>' => "&gt;".toList
  | c => [c]

/-- A text as it is written inside a quoted attribute. -/
def escape (text : Text) : Text :=
  text.flatMap escapeChar

/-- The text that a reader of the page sees for the content of a quoted attribute. -/
def unescape : Text → Text
  | '&' :: 'a' :: 'm' :: 'p' :: ';' :: rest => '&' :: unescape rest
  | '&' :: 'q' :: 'u' :: 'o' :: 't' :: ';' :: rest => '"' :: unescape rest
  | '&' :: 'l' :: 't' :: ';' :: rest => '<' :: unescape rest
  | '&' :: 'g' :: 't' :: ';' :: rest => '>' :: unescape rest
  | c :: rest => c :: unescape rest
  | [] => []

end ArchiveSearch.Text
