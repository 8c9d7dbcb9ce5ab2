import ArchiveSearch.Query.Token
import ArchiveSearch.Text.Lowercase

/-!
# Filters

A filter asks for the entries whose title, or whose categories, hold some text, or for those that
do not. As a token it is written `[-]field:value`. The field name is matched as it stands, the value
must not be empty, and then all its quotes go, not only an enclosing pair, and it is lowercased.

A filter has two written forms: `Filter.text`, and `Filter.quotedText`, which quotes the value so
that gaps in it do not end the token.
-/

namespace ArchiveSearch

/-- The attribute of an entry that a filter looks at. -/
inductive Field where
  | title
  | category
  deriving DecidableEq, Repr

namespace Field

/-- The name of a field in a query. -/
def name : Field → Text
  | title => "title".toList
  | category => "category".toList

/-- The field of a given name, letter for letter. -/
def ofName? (text : Text) : Option Field :=
  if text = title.name then some title
  else if text = category.name then some category
  else none

/-- A field is found by its own name only. -/
theorem ofName?_eq_some_iff {text : Text} {field : Field} :
    ofName? text = some field ↔ text = field.name := by
  have : title.name ≠ category.name := by decide
  cases field <;> grind [ofName?]

end Field

/-- A test of one attribute for one text. -/
structure Filter where
  /-- Whether the filter lets pass what does not hold the text. -/
  exclude : Bool
  field : Field
  /-- The text looked for. -/
  value : Text
  deriving DecidableEq, Repr

namespace Filter

/-- The filter for a value in any case. -/
def lowered (exclude : Bool) (field : Field) (value : Text) : Filter :=
  ⟨exclude, field, Text.lower value⟩

/-- What stands before the value in a written filter. -/
def head (filter : Filter) : Text :=
  (if filter.exclude then ['-'] else []) ++ filter.field.name ++ [':']

/-- A filter as it is shown. -/
def text (filter : Filter) : Text :=
  filter.head ++ filter.value

/-- A filter with its value in quotes, so that it is one token whatever gaps the value has. -/
def quotedText (filter : Filter) : Text :=
  filter.head ++ '"' :: filter.value ++ ['"']

end Filter

namespace Query

/-- Splits off the hyphen that makes a filter exclude, if there is one. -/
def splitExclude : Text → Bool × Text
  | '-' :: rest => (true, rest)
  | text => (false, text)

/-- Reads a field name up to the first colon, which stays in the rest. -/
def readField (text : Text) : Except ReadError (Field × Text) :=
  match cutAt? ':' text with
  | none => .error (.noSeparator text)
  | some (name, value) =>
      match Field.ofName? name with
      | none => .error (.unknownField text)
      | some field => .ok (field, ':' :: value)

/-- Reads the colon behind a field name. -/
def readColon : Text → Except ReadError Text
  | ':' :: rest => .ok rest
  | text => .error (.noColon text)

/-- Reads a value, which is all of a text that is not empty. -/
def readValue (text : Text) : Except ReadError (Text × Text) :=
  if text.isEmpty then .error .noValue else .ok (text, [])

/-- Reads a written filter, and what follows it. -/
def readWritten (text : Text) : Except ReadError (Filter × Text) := do
  let (exclude, named) := splitExclude text
  let (field, separated) ← readField named
  let written ← readColon separated
  let (value, rest) ← readValue written
  return (.lowered exclude field (value.filter (!isQuote ·)), rest)

/-- Reads a token as a filter. A filter takes its token whole. -/
def readFilter (token : Text) : Except ReadError Filter :=
  (readWritten token).map (·.1)

end Query

end ArchiveSearch
