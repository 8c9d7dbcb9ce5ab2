import ArchiveSearch.CommandLine
import ArchiveSearch.Page.Basic

/-!
# The preview

The preview shows what a query would leave of an archive. It reads posts, one on a line, puts them
on a fresh page, submits the query there, and prints the fragment that keeps the query and then the
titles that are shown, in the order of the posts.
-/

namespace ArchiveSearch.Preview

/-- What a run of the preview leaves behind. -/
structure Result where
  exitCode : Nat
  output : Text := []
  /-- What is said on the error channel, without the lines of the log that go there too. -/
  complaint : Text := []
  deriving DecidableEq, Repr

/-- The posts of an input, one on each line that is not blank. -/
def posts (input : Text) : List Post :=
  (Text.lines input).filterMap Post.ofLine?

/-- A fresh page with some posts on it. -/
def page (config : Config) (posts : List Post) : Page :=
  posts.foldl Page.push { config }

/-- What is printed for a query and the page that it was submitted on. -/
def report (query : Text) (page : Page) : Text :=
  '#' :: Fragment.encode query ++ '\n' :: page.shown.flatMap fun entry => entry.title ++ ['\n']

/-- What a run leaves behind that fails on its data. It has printed nothing by then. -/
def failed (details : Text) : Result :=
  { exitCode := 1, complaint := "Error: ".toList ++ details ++ ['\n'] }

/-- Submits a query on a page of posts. -/
def submit (config : Config) (query input : Text) : Result :=
  let outcome := ((page config (posts input)).typed query).submit
  match outcome.error? with
  | some e =>
      failed ("Custom \x7b kind: InvalidData, error: ".toList ++ e.details ++ " \x7d".toList)
  | none => { exitCode := 0, output := report query outcome.page }

/-- Runs the preview on its arguments, its input and its environment. The input does not matter
when the arguments are answered with a notice. -/
def run (arguments : List Bytes) (input : Bytes) (environment : Environment) : Result :=
  match CommandLine.parse arguments with
  | .error notice =>
      if notice.isAnswer then { exitCode := 0, output := notice.message }
      else { exitCode := 2, complaint := notice.message }
  | .ok terms =>
      match Utf8.text? input with
      | none =>
          failed ("Error \x7b kind: InvalidData, ".toList ++
            "message: \"stream did not contain valid UTF-8\" \x7d".toList)
      | some text => submit (.ofEnvironment environment) (CommandLine.query terms) text

end ArchiveSearch.Preview
