import ArchiveSearch.Fragment.Codec
import ArchiveSearch.Matching.Pass
import ArchiveSearch.Page.Markup
import ArchiveSearch.Query.Term

/-!
# The archive page

A page holds its entries, the text in the search field, and the fragment of its location, which
keeps the current query. Submitting only stores the query in the fragment; applying it is left to
the change of the fragment, and a fragment that is stored again unchanged is no change. A fragment
that spells no text fails the operation, which then touches neither the entries nor the search
field.
-/

namespace ArchiveSearch

/-- An archive page with its search. -/
structure Page where
  config : Config := {}
  entries : List Entry := []
  /-- What stands in the search field. -/
  searchText : Text := []
  /-- The fragment of the location, without its number sign. -/
  fragment : Text := []
  deriving DecidableEq, Repr

namespace Page

/-- A page after an operation, and why the operation failed if it did. -/
structure Outcome where
  page : Page
  error? : Option Fragment.Error := none
  deriving DecidableEq, Repr

/-- The page opened with a fragment, before it is loaded. -/
def openWith (page : Page) (fragment : Text) : Page :=
  { page with fragment := Fragment.withoutMark fragment }

/-- The page with one more post at its end. -/
def push (page : Page) (post : Post) : Page :=
  { page with entries := page.entries ++ [.ofPost page.config.separator post] }

/-- The page with another text in its search field. Nothing is applied before it is submitted. -/
def typed (page : Page) (text : Text) : Page :=
  { page with searchText := text }

/-- The page with a query applied to its entries. -/
def runQuery (page : Page) (query : Text) : Page :=
  { page with entries := (applyFilters (Query.filters query) page.entries).1 }

/-- The page with a query in its search field and applied. -/
def restore (page : Page) (query : Text) : Page :=
  (page.typed query).runQuery query

/-- Loading: the query in the fragment is restored, and an empty one applies nothing. -/
def load (page : Page) : Outcome :=
  match Fragment.decode page.fragment with
  | .error e => ⟨page, some e⟩
  | .ok query => ⟨if query.isEmpty then page else page.restore query, none⟩

/-- The fragment has changed: the query in it is restored, and an empty one shows every entry. -/
def hashChange (page : Page) : Outcome :=
  match Fragment.decode page.fragment with
  | .error e => ⟨page, some e⟩
  | .ok query => ⟨page.restore query, none⟩

/-- Navigation to a fragment. It is stored before it is read, and one that is stored already changes
nothing. -/
def navigate (page : Page) (fragment : Text) : Outcome :=
  if Fragment.withoutMark fragment = page.fragment then ⟨page, none⟩
  else (page.openWith fragment).hashChange

/-- Submitting: the text in the search field is stored as the fragment. -/
def submit (page : Page) : Outcome :=
  page.navigate (Fragment.encode page.searchText)

/-- The entries that are shown. -/
def shown (page : Page) : List Entry :=
  page.entries.filter (·.visible)

/-- The markup of the search controls. -/
def controls (page : Page) : Text :=
  page.config.controls page.searchText

/-- The markup of each entry. -/
def entryMarkup (page : Page) : List Text :=
  page.entries.map (·.attributes page.config)

end Page

end ArchiveSearch
