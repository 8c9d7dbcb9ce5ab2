import ArchiveSearch.Matching.Candidate
import ArchiveSearch.Page.Post

/-!
# Entries of the archive page

An entry is what a page holds of a post: the title and the categories in one text each, and whether
it is shown. An entry made from a post has both lowercased, so that searching does not mind case;
each category is lowercased by itself before they are joined. Entries of pages made elsewhere keep
their texts as they are.
-/

namespace ArchiveSearch

/-- An entry of an archive page. -/
structure Entry where
  title : Text
  categories : Text
  visible : Bool := true
  deriving DecidableEq, Repr

namespace Entry

/-- The entry of a post, shown, with `separator` between its categories. -/
def ofPost (separator : Text) (post : Post) : Entry :=
  { title := Text.lower post.title
    categories := separator.intercalate (post.categories.map Text.lower) }

/-- The value of the display style of an entry. -/
def display (entry : Entry) : Text :=
  if entry.visible then "block".toList else "none".toList

end Entry

instance : Toggle Entry where
  textOf entry
    | .title => entry.title
    | .category => entry.categories
  setVisible entry visible := { entry with visible }

end ArchiveSearch
