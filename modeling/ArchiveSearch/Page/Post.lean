import ArchiveSearch.Text.Blank

/-!
# Posts

A post has a title and categories, in any case. In a list of posts it is one line: the title, a tab,
and the categories between commas. The title is taken as it stands, while categories are trimmed and
empty ones dropped; a line without a tab has no categories, and a blank line is no post.
-/

namespace ArchiveSearch

/-- A post as its author names it. -/
structure Post where
  title : Text
  categories : List Text
  deriving DecidableEq, Repr

namespace Post

/-- The categories in a list between commas. -/
def categoriesOf (listed : Text) : List Text :=
  ((listed.splitOn ',').map Text.trim).filter (!·.isEmpty)

/-- The post on a line, unless the line is blank. -/
def ofLine? (line : Text) : Option Post :=
  if Text.isBlank line then none
  else
    match cutAt? '\t' line with
    | none => some ⟨line, []⟩
    | some (title, listed) => some ⟨title, categoriesOf listed⟩

/-- A post as a line. -/
def line (post : Post) : Text :=
  post.title ++ '\t' :: [','].intercalate post.categories

end Post

end ArchiveSearch
