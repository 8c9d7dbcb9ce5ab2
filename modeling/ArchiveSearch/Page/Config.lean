import ArchiveSearch.Text.Utf8

/-!
# Page configuration

The names that the markup of a page and its search share, each with a standard. An environment can
set every one of them; a value that is not UTF-8 sets nothing, an empty one is a value like any
other.
-/

namespace ArchiveSearch

/-- The variables of an environment with their values. -/
abbrev Environment := Text → Option Bytes

/-- The environment of a list of variables; the first of two with one name counts. -/
def Environment.ofList (settings : List (Text × Bytes)) : Environment :=
  fun name => settings.lookup name

/-- The text of a variable, if it is set to one. -/
def Environment.text? (environment : Environment) (name : Text) : Option Text :=
  (environment name).bind Utf8.text?

/-- The names that a page and its search share. -/
structure Config where
  /-- The class of an entry. -/
  entryClass : Text := "post-entry".toList
  /-- The attribute that holds the title of an entry. -/
  titleName : Text := "data-title".toList
  /-- The attribute that holds the categories of an entry. -/
  categoriesName : Text := "data-categories".toList
  /-- The identifier of the search field. -/
  fieldId : Text := "search-text".toList
  /-- The identifier of the button beside it. -/
  submitId : Text := "search-submit".toList
  /-- What stands between the categories of an entry. -/
  separator : Text := ",".toList
  deriving DecidableEq, Repr

namespace Config

/-- The configuration that an environment sets. -/
def ofEnvironment (environment : Environment) : Config :=
  let standard : Config := {}
  let setting (name : String) (value : Text) := (environment.text? name.toList).getD value
  { entryClass := setting "ENTRY_CLASS" standard.entryClass
    titleName := setting "TITLE_ATTR" standard.titleName
    categoriesName := setting "CATEGORIES_ATTR" standard.categoriesName
    fieldId := setting "SEARCH_FIELD_ID" standard.fieldId
    submitId := setting "SEARCH_SUBMIT_ID" standard.submitId
    separator := setting "CATEGORY_SEPARATOR" standard.separator }

/-- The variables that a configuration is read from. -/
def variableNames : List String :=
  ["ENTRY_CLASS", "TITLE_ATTR", "CATEGORIES_ATTR", "SEARCH_FIELD_ID", "SEARCH_SUBMIT_ID",
    "CATEGORY_SEPARATOR"]

end Config

end ArchiveSearch
