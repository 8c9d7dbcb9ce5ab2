import ArchiveSearch.Query.Filter

/-!
# Terms

A token of a query is a term. Either it reads as a filter, or it is plain and stands for a search in
the titles, for the token as it is, inner quotes included. So every query has a meaning: the filters
of its terms, in order.
-/

namespace ArchiveSearch

/-- What a token of a query means. -/
inductive Term where
  | filter (filter : Filter)
  /-- A token that is no written filter. -/
  | plain (token : Text)
  deriving DecidableEq, Repr

namespace Term

/-- The meaning of a token. -/
def ofToken (token : Text) : Term :=
  match Query.readFilter token with
  | .ok f => .filter f
  | .error _ => .plain token

/-- Whether a term is no written filter. -/
def isPlain : Term → Bool
  | filter _ => false
  | plain _ => true

/-- The filter that a term stands for. -/
def toFilter : Term → Filter
  | filter f => f
  | plain token => .lowered false .title token

/-- A term as it is shown. -/
def text : Term → Text
  | filter f => f.text
  | plain token => token

end Term

namespace Query

/-- The terms of a query, one for each token. -/
def terms (query : Text) : List Term :=
  (tokens query).map Term.ofToken

/-- The filters of a query, one for each token. -/
def filters (query : Text) : List Filter :=
  (terms query).map Term.toFilter

end Query

end ArchiveSearch
