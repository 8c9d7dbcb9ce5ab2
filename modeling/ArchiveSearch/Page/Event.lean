import ArchiveSearch.Page.Basic

/-!
# Events

What can happen to a page, one thing at a time, each running to completion. A failed event is no
end: the page it leaves is the page for the next one.
-/

namespace ArchiveSearch.Page

/-- Something that happens to a page. -/
inductive Event where
  | load
  | submit
  | hashChange
  | navigate (fragment : Text)
  | openWith (fragment : Text)
  | typed (text : Text)
  | push (post : Post)
  | runQuery (query : Text)
  deriving DecidableEq, Repr

/-- What an event does to a page. -/
def step (page : Page) : Event → Outcome
  | .load => page.load
  | .submit => page.submit
  | .hashChange => page.hashChange
  | .navigate fragment => page.navigate fragment
  | .openWith fragment => ⟨page.openWith fragment, none⟩
  | .typed text => ⟨page.typed text, none⟩
  | .push post => ⟨page.push post, none⟩
  | .runQuery query => ⟨page.runQuery query, none⟩

/-- The page after some events. -/
def run (page : Page) (events : List Event) : Page :=
  events.foldl (fun page event => (page.step event).page) page

end ArchiveSearch.Page
