import ArchiveSearch.Page.Config
import ArchiveSearch.Page.Entry
import ArchiveSearch.Text.Entity

/-!
# Markup

The attributes of an entry and the search controls as they stand in the page. Every text that comes
from a post, a query or the configuration is escaped inside quotes; the names of the two data
attributes stand outside quotes and are taken as they are.
-/

namespace ArchiveSearch

/-- An attribute with its value in quotes. -/
def attributeText (name value : Text) : Text :=
  name ++ "=\"".toList ++ Text.escape value ++ "\"".toList

/-- The attributes of an entry. -/
def Entry.attributes (config : Config) (entry : Entry) : Text :=
  attributeText "class".toList config.entryClass ++ " ".toList ++
    attributeText config.titleName entry.title ++ " ".toList ++
    attributeText config.categoriesName entry.categories ++ " style=\"display: ".toList ++
    entry.display ++ "\"".toList

/-- The search field with a text in it, and the button beside it. -/
def Config.controls (config : Config) (text : Text) : Text :=
  "<input type=\"text\" ".toList ++ attributeText "id".toList config.fieldId ++ " ".toList ++
    attributeText "value".toList text ++ "><button ".toList ++
    attributeText "id".toList config.submitId ++ ">Search</button>".toList

end ArchiveSearch
