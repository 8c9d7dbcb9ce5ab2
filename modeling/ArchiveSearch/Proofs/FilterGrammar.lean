import ArchiveSearch.Proofs.FilterWriting
import ArchiveSearch.Query.Term

/-!
# The grammar of filters

A token is a filter exactly if it is `[-]field:written` with something written behind the colon
(`Query.IsWritten`), and then in one way only (`Query.IsWritten.unique`). For any other token the
error tells what is missing and where (`Query.ReadError.Explains`): a colon, a name of a field
before the first colon, or a text behind it. Every token is one or the other
(`Query.exists_isWritten_or_explains`), and the reader follows both, so each of its two answers is
characterised in both directions.
-/

namespace ArchiveSearch

theorem Field.name_injective : Function.Injective Field.name := by
  intro field other hname
  have hfield : ofName? field.name = some field := ofName?_eq_some_iff.mpr rfl
  have hother : ofName? field.name = some other := ofName?_eq_some_iff.mpr hname
  exact Option.some.inj (hfield.symm.trans hother)

namespace Query

/-- A token is written as a filter: a hyphen or none, the name of a field, a colon, and behind it a
text that is not empty. -/
structure IsWritten (token : Text) (exclude : Bool) (field : Field) (written : Text) : Prop where
  token_eq : token = (if exclude then ['-'] else []) ++ (field.name ++ ':' :: written)
  ne : written ≠ []

/-- A token without the one hyphen that may stand at its front. -/
def unsigned (token : Text) : Text :=
  if token.head? = some '-' then token.tail else token

/-- What an error says of the token behind its hyphen: there is no colon in it, or what stands
before the first colon names no field, or the name of a field and a colon are all of it. A token is
wanted nowhere in it, and the colon behind a name is never missing. -/
def ReadError.Explains (named : Text) : ReadError → Prop
  | .noToken _ | .noColon _ => False
  | .noSeparator rest => rest = named ∧ ':' ∉ named
  | .unknownField rest => rest = named ∧ ∃ name behind, named = name ++ ':' :: behind ∧
      ':' ∉ name ∧ ∀ field : Field, name ≠ field.name
  | .noValue => ∃ field : Field, named = field.name ++ [':']

/-- Splitting off a hyphen tells whether there is one, and leaves the token without it. -/
theorem splitExclude_eq (token : Text) :
    splitExclude token = (decide (token.head? = some '-'), unsigned token) := by
  unfold splitExclude unsigned
  split
  · rfl
  · rename_i hhyphen
    have hhead : token.head? ≠ some '-' := by
      intro hhead
      obtain ⟨rest, rfl⟩ := List.head?_eq_some_iff.mp hhead
      exact hhyphen rest rfl
    rw [if_neg hhead, decide_eq_false hhead]

/-- A token that is written as a filter is the head of that filter and the value behind it. -/
theorem IsWritten.head_append {token written : Text} {exclude : Bool} {field : Field}
    (h : IsWritten token exclude field written) :
    token = Filter.head ⟨exclude, field, written⟩ ++ written := by
  rw [h.token_eq, Filter.head]
  simp only [List.append_assoc]
  rfl

/-- Behind the hyphen stands the name of the field and the first colon. -/
theorem IsWritten.splitExclude_eq {token written : Text} {exclude : Bool} {field : Field}
    (h : IsWritten token exclude field written) :
    splitExclude token = (exclude, field.name ++ ':' :: written) := by
  rw [h.head_append, splitExclude_head]

/-- A token is written as a filter in one way at most. -/
theorem IsWritten.unique {token written written' : Text} {exclude exclude' : Bool}
    {field field' : Field} (h : IsWritten token exclude field written)
    (h' : IsWritten token exclude' field' written') :
    exclude' = exclude ∧ field' = field ∧ written' = written := by
  obtain ⟨hexclude, hnamed⟩ := Prod.mk.inj (h.splitExclude_eq.symm.trans h'.splitExclude_eq)
  obtain ⟨hname, hwritten⟩ :=
    append_separator_inj field.colon_not_mem_name field'.colon_not_mem_name hnamed
  exact ⟨hexclude.symm, (Field.name_injective hname).symm, hwritten.symm⟩

/-- The token of a filter is read to its end. -/
theorem IsWritten.readWritten_eq {token written : Text} {exclude : Bool} {field : Field}
    (h : IsWritten token exclude field written) :
    readWritten token = .ok (.lowered exclude field (written.filter (!isQuote ·)), []) := by
  rw [h.head_append]
  exact readWritten_head_append ⟨exclude, field, written⟩ h.ne

/-- A token that is written as a filter is read as that filter. -/
theorem IsWritten.readFilter_eq {token written : Text} {exclude : Bool} {field : Field}
    (h : IsWritten token exclude field written) :
    readFilter token = .ok (.lowered exclude field (written.filter (!isQuote ·))) := by
  rw [readFilter, h.readWritten_eq]
  rfl

/-- A token that is written as a filter is that filter, with a value that has no quotes. -/
theorem IsWritten.ofToken_eq {token written : Text} {exclude : Bool} {field : Field}
    (h : IsWritten token exclude field written) :
    Term.ofToken token = .filter ⟨exclude, field, Text.lower (written.filter (· != '"'))⟩ := by
  rw [Term.ofToken, h.readFilter_eq]
  rfl

/-- An error that explains what is behind the hyphen is the one that reading the token gives. -/
theorem ReadError.Explains.readWritten_eq {token : Text} {e : ReadError}
    (h : e.Explains (unsigned token)) : readWritten token = .error e := by
  cases e with
  | noToken rest => exact h.elim
  | noSeparator rest =>
      obtain ⟨rfl, hcolon⟩ := h
      have hcut : cutAt? ':' (unsigned token) = none := cutAt?_eq_none_iff.mpr hcolon
      simp only [readWritten, Query.splitExclude_eq, readField, hcut]
      rfl
  | unknownField rest =>
      obtain ⟨rfl, name, behind, hnamed, hcolon, hunknown⟩ := h
      have hcut : cutAt? ':' (unsigned token) = some (name, behind) :=
        cutAt?_eq_some_iff.mpr ⟨hnamed, hcolon⟩
      have hname : Field.ofName? name = none := by
        rw [Option.eq_none_iff_forall_ne_some]
        intro field hfield
        exact hunknown field (Field.ofName?_eq_some_iff.mp hfield)
      simp only [readWritten, Query.splitExclude_eq, readField, hcut, hname]
      rfl
  | noColon rest => exact h.elim
  | noValue =>
      obtain ⟨field, hnamed⟩ := h
      simp only [readWritten, Query.splitExclude_eq, hnamed, readField_name]
      rfl

/-- A token is refused with the error that explains it. -/
theorem ReadError.Explains.readFilter_eq {token : Text} {e : ReadError}
    (h : e.Explains (unsigned token)) : readFilter token = .error e := by
  rw [readFilter, h.readWritten_eq]
  rfl

/-- The colon is found behind every field name that is read. -/
theorem readColon_of_readField {text rest : Text} {field : Field}
    (h : readField text = .ok (field, rest)) : ∃ written, readColon rest = .ok written := by
  unfold readField at h
  cases hcut : cutAt? ':' text with
  | none => simp [hcut] at h
  | some parts =>
      cases hname : Field.ofName? parts.1 with
      | none => simp [hcut, hname] at h
      | some found =>
          simp only [hcut, hname, Except.ok.injEq, Prod.mk.injEq] at h
          refine ⟨parts.2, ?_⟩
          rw [← h.2]
          rfl

/-- A token is its hyphen, if it has one, and the rest. -/
theorem eq_sign_append_unsigned (token : Text) :
    token = (if decide (token.head? = some '-') then ['-'] else []) ++ unsigned token := by
  by_cases hhead : token.head? = some '-'
  · obtain ⟨rest, rfl⟩ := List.head?_eq_some_iff.mp hhead
    rfl
  · simp [unsigned, hhead]

/-- Every token is written as a filter, or there is an error that explains it. -/
theorem exists_isWritten_or_explains (token : Text) :
    (∃ exclude field written, IsWritten token exclude field written) ∨
      ∃ e : ReadError, e.Explains (unsigned token) := by
  cases hcut : cutAt? ':' (unsigned token) with
  | none => exact .inr ⟨.noSeparator (unsigned token), rfl, cutAt?_eq_none_iff.mp hcut⟩
  | some parts =>
      obtain ⟨name, behind⟩ := parts
      obtain ⟨hnamed, hcolon⟩ := cutAt?_eq_some_iff.mp hcut
      by_cases hknown : ∃ field : Field, name = field.name
      · obtain ⟨field, rfl⟩ := hknown
        by_cases hbehind : behind = []
        · exact .inr ⟨.noValue, field, by rw [hnamed, hbehind]⟩
        · refine .inl ⟨decide (token.head? = some '-'), field, behind, ?_, hbehind⟩
          rw [← hnamed]
          exact eq_sign_append_unsigned token
      · exact .inr ⟨.unknownField (unsigned token), rfl, name, behind, hnamed, hcolon,
          not_exists.mp hknown⟩

theorem readWritten_eq_error_iff {token : Text} {e : ReadError} :
    readWritten token = .error e ↔ e.Explains (unsigned token) := by
  refine ⟨fun hread => ?_, ReadError.Explains.readWritten_eq⟩
  rcases exists_isWritten_or_explains token with ⟨_, _, _, hwritten⟩ | ⟨other, hother⟩
  · rw [hwritten.readWritten_eq] at hread
    cases hread
  · rw [hother.readWritten_eq] at hread
    cases hread
    exact hother

/-- The tokens that are read are those that are written as a filter. -/
theorem exists_readWritten_iff {token : Text} :
    (∃ parts, readWritten token = .ok parts) ↔
      ∃ exclude field written, IsWritten token exclude field written := by
  constructor
  · intro hok
    obtain ⟨parts, hread⟩ := hok
    rcases exists_isWritten_or_explains token with hwritten | ⟨e, he⟩
    · exact hwritten
    · rw [he.readWritten_eq] at hread
      cases hread
  · intro hwritten
    obtain ⟨exclude, field, written, hwritten⟩ := hwritten
    exact ⟨_, hwritten.readWritten_eq⟩

/-- An error that explains a token looks at all that is behind the hyphen, or at nothing. -/
theorem ReadError.Explains.rest_eq {named : Text} {e : ReadError} (h : e.Explains named) :
    e.rest = if e = .noValue then [] else named := by
  cases e with
  | noToken rest => exact h.elim
  | noSeparator rest => exact h.1
  | unknownField rest => exact h.1
  | noColon rest => exact h.elim
  | noValue => rfl

/-- The plain terms are the tokens that are refused. -/
theorem ofToken_eq_plain_iff {token : Text} :
    Term.ofToken token = .plain token ↔ ∃ e, readWritten token = .error e := by
  unfold Term.ofToken readFilter
  cases readWritten token <;> simp [Except.map]

/-- **Filters are read by their grammar.** A token that is written as a filter is read as that
filter, in the one way that it is written, with nothing left over and the value lowercased without
its quotes; and no other token is read. Any other token is refused with the error that explains it,
at the text behind the hyphen, or at the end of the token if only the value is missing; the colon
behind a field name is never missed. The refused tokens are the plain terms. -/
theorem filters_follow_grammar (token : Text) :
    (∀ exclude field written, IsWritten token exclude field written →
      let filter : Filter := ⟨exclude, field, Text.lower (written.filter (· != '"'))⟩
      readWritten token = .ok (filter, []) ∧ Term.ofToken token = .filter filter ∧
        ∀ exclude' field' written', IsWritten token exclude' field' written' →
          exclude' = exclude ∧ field' = field ∧ written' = written) ∧
      ((∃ parts, readWritten token = .ok parts) ↔
        ∃ exclude field written, IsWritten token exclude field written) ∧
      (∀ e, readWritten token = .error e ↔ e.Explains (unsigned token)) ∧
      (∀ e, readWritten token = .error e →
        e.rest = if e = .noValue then [] else unsigned token) ∧
      (∀ text field rest, readField text = .ok (field, rest) →
        ∃ written, readColon rest = .ok written) ∧
      (Term.ofToken token = .plain token ↔ ∃ e, readWritten token = .error e) := by
  refine ⟨?_, exists_readWritten_iff, fun e => readWritten_eq_error_iff, ?_,
    fun _ _ _ => readColon_of_readField, ofToken_eq_plain_iff⟩
  · intro exclude field written hwritten filter
    exact ⟨hwritten.readWritten_eq, hwritten.ofToken_eq,
      fun _ _ _ hother => hwritten.unique hother⟩
  · intro e hread
    exact (readWritten_eq_error_iff.mp hread).rest_eq

/-- A value with a colon and quotes in it, a second hyphen in front of a field, and a name without a
value. -/
theorem filters_follow_grammar_at_hyphens :
    let written := "\"A:b\" c\"".toList
    IsWritten "-category:\"A:b\" c\"".toList true .category written ∧
      readWritten "-category:\"A:b\" c\"".toList =
        .ok (⟨true, .category, "a:b c".toList⟩, []) ∧
      readWritten "--title:x".toList = .error (.unknownField "-title:x".toList) ∧
      readWritten "-title:".toList = .error .noValue ∧
      Term.ofToken "-Title".toList = .plain "-Title".toList := by
  intro written
  have hwritten : IsWritten "-category:\"A:b\" c\"".toList true .category written :=
    ⟨by decide, by decide⟩
  have hunknown : ∀ field : Field, "-title".toList ≠ field.name := by
    intro field
    cases field <;> decide
  refine ⟨hwritten, ?_, ?_, ?_, ?_⟩
  · have hread := (filters_follow_grammar _).1 true .category written hwritten
    exact hread.1
  · rw [(filters_follow_grammar _).2.2.1]
    exact ⟨rfl, "-title".toList, "x".toList, by decide, by decide, hunknown⟩
  · rw [(filters_follow_grammar _).2.2.1]
    exact ⟨.title, by decide⟩
  · rw [(filters_follow_grammar _).2.2.2.2.2]
    exact ⟨.noSeparator "Title".toList, rfl⟩

end Query

end ArchiveSearch
