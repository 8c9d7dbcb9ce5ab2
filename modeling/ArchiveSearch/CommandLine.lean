import ArchiveSearch.Text.Similarity
import ArchiveSearch.Text.Terminal
import ArchiveSearch.Text.Utf8

/-!
# The command line

The arguments of the preview are the terms of one query, hyphens and all. Only the first argument
can be anything else: it can ask for help or for the version, and a first `--` is dropped, so that
a query can start with a hyphen. Arguments are bytes, and all terms have to be UTF-8. A first
argument of two hyphens and a name that is not UTF-8 is refused as an option that does not exist.
What notices repeat of an argument is shown as a terminal would show it.
-/

namespace ArchiveSearch.CommandLine

/-- What the preview answers instead of running a query. -/
inductive Notice where
  | help
  | version
  /-- `option` was given a value, and it takes none. -/
  | unexpectedValue (option value : Text)
  /-- The name after two hyphens is not UTF-8, and so names no option. -/
  | unknownOption (name : Text)
  /-- A term is not UTF-8. -/
  | invalidText
  deriving DecidableEq, Repr

namespace Notice

/-- The purpose and the options of the preview. -/
def helpText : Text :=
  ("Preview which archive entries a search query leaves visible\n\n" ++
    "Usage: archive_filter [QUERY]...\n\n" ++
    "Arguments:\n  [QUERY]...  Query terms, e.g. `rust \"async io\" -category:drafts`\n\n" ++
    "Options:\n  -h, --help     Print help\n  -V, --version  Print version\n").toList

/-- The names of the options. -/
def optionNames : List Text :=
  ["help".toList, "version".toList]

/-- The last lines of an error, for a command line with the option `used` in it or none. -/
def usage (used : Text) : Text :=
  "\n\nUsage: archive_filter ".toList ++ used ++
    "[QUERY]...\n\nFor more information, try '--help'.\n".toList

/-- The hint at an option, if one is meant, and the hint at how to write a term instead. -/
def hints (shown : Text) (meant? : Option Text) : Text :=
  (match meant? with
    | some meant => "\n  tip: a similar argument exists: '".toList ++ meant ++ "'".toList
    | none => []) ++
    "\n  tip: to pass '".toList ++ shown ++ "' as a value, use '-- ".toList ++ shown ++ "'".toList

/-- The wording of a notice. -/
def message : Notice → Text
  | help => helpText
  | version => "page 0.1.1\n".toList
  | unexpectedValue option value =>
      "error: unexpected value '".toList ++ Terminal.plain value ++ "' for '".toList ++ option ++
        "' found; no more were expected".toList ++ usage (option ++ " ".toList)
  | unknownOption name =>
      let shown := Terminal.plain ("--".toList ++ name)
      let meant? := (mostSimilar? name optionNames).map ("--".toList ++ ·)
      "error: unexpected argument '".toList ++ shown ++ "' found\n".toList ++ hints shown meant? ++
        usage ((meant?.map (· ++ " ".toList)).getD [])
  | invalidText =>
      "error: invalid UTF-8 was detected in one or more arguments".toList ++ usage []

/-- Whether a notice was asked for, and is no error. -/
def isAnswer : Notice → Bool
  | help | version => true
  | unexpectedValue .. | unknownOption _ | invalidText => false

end Notice

/-- The notice that a letter after one hyphen asks for. -/
def letterNotice? (letter : Char) : Option Notice :=
  if letter = 'h' then some .help
  else if letter = 'V' then some .version
  else none

/-- The notice that several letters after one hyphen ask for. They are options only if each of them
is one, and then the first decides. -/
def lettersNotice? : Text → Option Notice
  | [] => none
  | letter :: letters =>
      if letters.all fun l => (letterNotice? l).isSome then letterNotice? letter else none

/-- The notice that a name after two hyphens asks for. -/
def nameNotice? (name : Text) : Option Notice :=
  if name = "help".toList then some .help
  else if name = "version".toList then some .version
  else none

/-- The notice that two hyphens, a name and perhaps a value after an equals sign ask for. -/
def longNotice? (name : Bytes) (value? : Option Bytes) : Option Notice :=
  match Utf8.text? name with
  | none => some (.unknownOption (Utf8.decodeLossy name))
  | some name =>
      (nameNotice? name).map fun notice =>
        match value? with
        | none => notice
        | some value => .unexpectedValue ("--".toList ++ name) (Utf8.decodeLossy value)

/-- The notice that an argument asks for, or nothing if it is a term. -/
def notice? : Bytes → Option Notice
  | 0x2D :: 0x2D :: long =>
      match cutAt? 0x3D long with
      | none => longNotice? long none
      | some (name, value) => longNotice? name (some value)
  | 0x2D :: letters => (Utf8.text? letters).bind lettersNotice?
  | _ => none

/-- The terms that some arguments spell. -/
def terms (arguments : List Bytes) : Except Notice (List Text) :=
  match arguments.mapM Utf8.text? with
  | some terms => .ok terms
  | none => .error .invalidText

/-- The query terms of a command line, or the notice that takes their place. -/
def parse : List Bytes → Except Notice (List Text)
  | [] => .ok []
  | first :: rest =>
      if first = Utf8.encode "--".toList then terms rest
      else
        match notice? first with
        | some notice => .error notice
        | none => terms (first :: rest)

/-- The query of some terms. -/
def query (terms : List Text) : Text :=
  [' '].intercalate terms

end ArchiveSearch.CommandLine
