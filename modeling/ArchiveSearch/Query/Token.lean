import ArchiveSearch.Text.Basic

/-!
# Tokens of a query

A query is cut into tokens at its gaps, which are the spaces and tabs outside double quotes. A
quote opens or closes a quoted stretch wherever it stands, and one that is never closed runs to the
end of the query, so every query has tokens and none is refused. A raw token keeps its quotes; a
token loses one enclosing pair of them.

`splitRaw_append` says that reading a raw token loses nothing, and `readToken_rest_length` that a
token always takes something, which is why the cutting never stalls (`exists_readMany_readToken`).
-/

namespace ArchiveSearch.Query

/-- Why a piece of a query could not be read, with the text that was being looked at. -/
inductive ReadError where
  /-- A token was wanted, and `rest` starts none. -/
  | noToken (rest : Text)
  /-- A field name was wanted, and no colon ends one in `rest`. -/
  | noSeparator (rest : Text)
  /-- What stands before the first colon of `rest` names no field. -/
  | unknownField (rest : Text)
  /-- A colon was wanted, and `rest` does not start with one. -/
  | noColon (rest : Text)
  /-- Nothing stands after the colon. -/
  | noValue
  deriving DecidableEq, Repr

/-- The text that was being looked at. -/
def ReadError.rest : ReadError → Text
  | noToken rest | noSeparator rest | unknownField rest | noColon rest => rest
  | noValue => []

/-- Whether a character is a tab. -/
def isTab (c : Char) : Bool :=
  c == '\t'

/-- Whether a character makes a gap where it is not quoted. -/
def isGap (c : Char) : Bool :=
  c == ' ' || isTab c

/-- Whether a character opens or closes a quoted stretch. -/
def isQuote (c : Char) : Bool :=
  c == '"'

/-- Spaces and tabs are gaps, and no other white space is. -/
theorem isGap_iff {c : Char} : isGap c = true ↔ c = ' ' ∨ c = '\t' := by
  simp [isGap, isTab]

theorem isQuote_iff {c : Char} : isQuote c = true ↔ c = '"' := by
  simp [isQuote]

/-- Splits off the raw token at the front of a text: all up to the first gap outside quotes.
`quoted` tells whether the text starts inside quotes. -/
def splitRaw (quoted : Bool) : Text → Text × Text
  | [] => ([], [])
  | c :: rest =>
      if isQuote c then
        let parts := splitRaw (!quoted) rest
        (c :: parts.1, parts.2)
      else if quoted || !isGap c then
        let parts := splitRaw quoted rest
        (c :: parts.1, parts.2)
      else ([], c :: rest)

/-- The raw token and the rest are the text. -/
theorem splitRaw_append (quoted : Bool) (text : Text) :
    (splitRaw quoted text).1 ++ (splitRaw quoted text).2 = text := by
  fun_induction splitRaw quoted text <;> simp_all +zetaDelta

/-- Reads the raw token that starts a text, and what follows it. -/
def readRaw (text : Text) : Except ReadError (Text × Text) :=
  let parts := splitRaw false text
  if parts.1.isEmpty then .error (.noToken text) else .ok parts

/-- Takes one enclosing pair of quotes off a raw token that starts and ends with a quote. A quote
that stands alone is no pair. -/
def stripQuotes (raw : Text) : Text :=
  if 2 ≤ raw.length ∧ raw.head? = some '"' ∧ raw.getLast? = some '"' then
    raw.tail.dropLast
  else raw

/-- Splits off the gap at the front of a text. -/
def splitGap (text : Text) : Text × Text :=
  (text.takeWhile isGap, text.dropWhile isGap)

/-- Reads the first token of a text, and what follows it. -/
def readToken (text : Text) : Except ReadError (Text × Text) :=
  (readRaw (splitGap text).2).map fun parts => (stripQuotes parts.1, parts.2)

theorem readRaw_rest_length {text raw rest : Text} (h : readRaw text = .ok (raw, rest)) :
    rest.length < text.length := by
  have happend := congrArg List.length (splitRaw_append false text)
  rw [readRaw] at h
  cases hparts : splitRaw false text with
  | mk first second =>
      rw [hparts] at h happend
      cases first with
      | nil => cases h
      | cons c first => cases h; simp at happend; omega

/-- What follows a token is shorter than what it was read from. -/
theorem readToken_rest_length {text token rest : Text}
    (h : readToken text = .ok (token, rest)) : rest.length < text.length := by
  rw [readToken] at h
  cases hraw : readRaw (splitGap text).2 with
  | error e => rw [hraw] at h; cases h
  | ok parts =>
      rw [hraw] at h
      cases h
      exact Nat.lt_of_lt_of_le (readRaw_rest_length hraw) (List.dropWhile_sublist _).length_le

/-- Reads one item after the other, up to the first that cannot be read. Gives the items and the
rest of the text, or nothing if an item was read that took nothing from the text: such reading would
never end. -/
def readMany {α : Type} (read : Text → Except ReadError (α × Text)) (text : Text) :
    Option (List α × Text) :=
  match read text with
  | .error _ => some ([], text)
  | .ok (item, rest) =>
      if _h : rest.length < text.length then
        (readMany read rest).map fun parts => (item :: parts.1, parts.2)
      else none
termination_by text.length

/-- The tokens of a query, in order. -/
def tokens (query : Text) : List Text :=
  ((readMany readToken query).map (·.1)).getD []

/-- The reading of a query never stalls, since every token takes something. -/
theorem exists_readMany_readToken (query : Text) :
    ∃ parts, readMany readToken query = some parts := by
  fun_induction readMany readToken query with
  | case1 text e hread => exact ⟨_, rfl⟩
  | case2 text token rest hread hlt ih =>
      obtain ⟨parts, hparts⟩ := ih
      exact ⟨_, by rw [hparts]; rfl⟩
  | case3 text token rest hread hlt => exact absurd (readToken_rest_length hread) hlt

/-- A query that starts with a token has that one, and then the tokens of what follows it. -/
theorem tokens_of_readToken_ok {query token rest : Text}
    (h : readToken query = .ok (token, rest)) : tokens query = token :: tokens rest := by
  obtain ⟨parts, hparts⟩ := exists_readMany_readToken rest
  rw [tokens, readMany, tokens, h]
  simp [readToken_rest_length h, hparts]

/-- A query that starts with no token has none. -/
theorem tokens_of_readToken_error {query : Text} {e : ReadError}
    (h : readToken query = .error e) : tokens query = [] := by
  rw [tokens, readMany, h]
  rfl

end ArchiveSearch.Query
