import ArchiveSearch.Proofs.QueryConcatenation

/-!
# The reading of tokens comes to an end

Tokens are read in turns, one after the other up to the first that fails, and a turn that took
nothing would make the reading give up and the query lose all its tokens. No turn does: a text fails
to give a token only where nothing but gaps is left (`Query.readToken_error_iff`), and else a turn
takes a gap and a raw token that is not empty (`Query.exists_turn_of_readToken`). So the turns of a
query, as `Query.Reading` lists them, go on to a rest of gaps, and no text is lost between them.
-/

namespace ArchiveSearch.Query

/-- What one turn takes from the front of a text: a gap, which may be empty, and a raw token. -/
structure Turn where
  gap : Text
  raw : Text
  deriving DecidableEq, Repr

/-- The text that a turn takes. -/
def Turn.text (turn : Turn) : Text :=
  turn.gap ++ turn.raw

/-- The token that a turn gives. -/
def Turn.token (turn : Turn) : Text :=
  stripQuotes turn.raw

/-- What a turn takes from a text, and what it leaves: it stops at the end, or before a gap with all
quotes closed. -/
structure Turn.Takes (turn : Turn) (text rest : Text) : Prop where
  text_eq : text = turn.text ++ rest
  gap_isGap : ∀ c ∈ turn.gap, c = ' ' ∨ c = '\t'
  raw_ne : turn.raw ≠ []
  raw_head : ∀ c ∈ turn.raw.head?, c ≠ ' ' ∧ c ≠ '\t'
  rest_head : rest = [] ∨ (rest.head? = some ' ' ∨ rest.head? = some '\t') ∧ Balanced turn.raw

/-- The turns in which a text is read, up to what is left unread. -/
inductive Reading : Text → List Turn → Text → Prop
  | stop {unread : Text} (hgap : ∀ c ∈ unread, c = ' ' ∨ c = '\t') : Reading unread [] unread
  | turn {turn : Turn} {turns : List Turn} {text rest unread : Text}
      (htakes : turn.Takes text rest) (tail : Reading rest turns unread) :
      Reading text (turn :: turns) unread

/-- A turn leaves less than there was. -/
theorem Turn.Takes.rest_length {turn : Turn} {text rest : Text} (h : turn.Takes text rest) :
    rest.length < text.length := by
  have hpos : 0 < turn.raw.length := List.length_pos_iff.mpr h.raw_ne
  rw [h.text_eq, Turn.text, List.length_append, List.length_append]
  omega

/-- Between the turns of a reading no text is lost. -/
theorem Reading.text_eq {text unread : Text} {turns : List Turn} (h : Reading text turns unread) :
    text = turns.flatMap (·.text) ++ unread := by
  induction h with
  | stop hgap => rfl
  | turn htakes tail ih =>
      rw [htakes.text_eq, List.flatMap_cons, List.append_assoc, ← ih]

/-- A reading leaves nothing but spaces and tabs. -/
theorem Reading.unread_isGap {text unread : Text} {turns : List Turn}
    (h : Reading text turns unread) : ∀ c ∈ unread, c = ' ' ∨ c = '\t' := by
  induction h with
  | stop hgap => exact hgap
  | turn htakes tail ih => exact ih

/-- A text gives no token exactly when it has nothing but gaps. -/
theorem readToken_error_iff {text : Text} :
    (∃ e, readToken text = .error e) ↔ ∀ c ∈ text, c = ' ' ∨ c = '\t' := by
  simp only [← isGap_iff]
  constructor
  · intro herror
    obtain ⟨e, hread⟩ := herror
    exact readToken_eq_error hread
  · intro hgap
    have hskip := readToken_gap_append hgap []
    rw [List.append_nil] at hskip
    exact ⟨.noToken [], hskip⟩

/-- **What a turn takes.** A text that gives a token has a turn for it. -/
theorem exists_turn_of_readToken {text token rest : Text} (h : readToken text = .ok (token, rest)) :
    ∃ turn : Turn, token = turn.token ∧ turn.Takes text rest := by
  obtain ⟨gap, raw, htext, hgap, hne, htoken, hsplit⟩ := exists_splitRaw_of_readToken h
  have hend := splitRaw_rest_even false (raw ++ rest)
  rw [hsplit] at hend
  refine ⟨⟨gap, raw⟩, htoken, ?_, ?_, hne, ?_, ?_⟩
  · rw [htext, Turn.text, List.append_assoc]
  · exact fun c hc => isGap_iff.mp (hgap c hc)
  · intro c hc
    have hfirst : (raw ++ rest).head? = some c := by
      rw [List.head?_append, Option.mem_def.mp hc]
      rfl
    have hgap := head_of_splitRaw hne hsplit c hfirst
    simpa [isGap, isTab] using hgap
  · apply hend.imp_right
    intro hbehind
    obtain ⟨⟨c, tail, hrest, hc⟩, heven⟩ := hbehind
    refine ⟨?_, by simpa [Balanced] using heven⟩
    simp only at hrest
    rw [hrest]
    simpa using isGap_iff.mp hc

/-- The reading of a query is a list of turns, and it never gives up. -/
theorem exists_reading (query : Text) :
    ∃ turns unread, Reading query turns unread ∧
      readMany readToken query = some (turns.map (·.token), unread) := by
  fun_induction readMany readToken query with
  | case1 text e hread => exact ⟨[], text, .stop (readToken_error_iff.mp ⟨e, hread⟩), rfl⟩
  | case2 text token rest hread hlt ih =>
      obtain ⟨turns, unread, htail, hmany⟩ := ih
      obtain ⟨turn, rfl, htakes⟩ := exists_turn_of_readToken hread
      exact ⟨turn :: turns, unread, .turn htakes htail, by rw [hmany]; rfl⟩
  | case3 text token rest hread hlt => exact absurd (readToken_rest_length hread) hlt

/-- **The reading of tokens progresses and drops none.** A text gives no token exactly when it is
all spaces and tabs; the token that it gives comes with a turn that takes something from its front,
stops at the end or before a gap with all quotes closed, and leaves a shorter rest. So a query is
read in turns of that kind until only spaces and tabs are left unread, the reading does not give
up, and the tokens of the query are those of all the turns. -/
theorem token_reading_progresses (query : Text) :
    ((∃ e, readToken query = .error e) ↔ ∀ c ∈ query, c = ' ' ∨ c = '\t') ∧
      (∀ token rest, readToken query = .ok (token, rest) →
        (∃ turn : Turn, token = turn.token ∧ turn.Takes query rest) ∧
          rest.length < query.length) ∧
      ∃ turns unread,
        readMany readToken query = some (turns.map (·.token), unread) ∧
        tokens query = turns.map (·.token) ∧
        Reading query turns unread ∧
        query = turns.flatMap (·.text) ++ unread ∧
        ∀ c ∈ unread, c = ' ' ∨ c = '\t' := by
  refine ⟨readToken_error_iff, ?_, ?_⟩
  · intro token rest hread
    obtain ⟨turn, htoken, htakes⟩ := exists_turn_of_readToken hread
    exact ⟨⟨turn, htoken, htakes⟩, htakes.rest_length⟩
  · obtain ⟨turns, unread, hreading, hmany⟩ := exists_reading query
    refine ⟨turns, unread, hmany, ?_, hreading, hreading.text_eq, hreading.unread_isGap⟩
    rw [tokens, hmany]
    rfl

/-- A turn that gives the empty token still takes something. -/
theorem token_reading_progresses_at_quotes :
    let query := " \"\"\t a\"b c\" \t".toList
    let rest := "\t a\"b c\" \t".toList
    readToken query = .ok ([], rest) ∧
      (∃ turn : Turn, [] = turn.token ∧ turn.Takes query rest) ∧ rest.length < query.length := by
  intro query rest
  have hread : readToken query = .ok ([], rest) := rfl
  obtain ⟨-, hturn, -⟩ := token_reading_progresses query
  exact ⟨hread, hturn [] rest hread⟩

example : readMany readToken " \"\"\t a\"b c\" \t".toList =
    some ([[], "a\"b c\"".toList], " \t".toList) := by
  decide +kernel

end ArchiveSearch.Query
