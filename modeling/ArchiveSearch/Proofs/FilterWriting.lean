import ArchiveSearch.Proofs.QueryConcatenation

/-!
# Filters written as queries

A filter has two spellings that keep its value together whatever gaps it holds: quotes around the
value (`Filter.quotedText`), and quotes around the whole filter (`Filter.enclosedText`). Quotes are
taken off in two places. The tokens lose an enclosing pair, which the second spelling has and the
first has not; and reading a filter drops all quotes from the value, which the first has and the
second no more. Either spelling is one token with an even number of quotes, so a list of filters is
read back from their spellings with breaks between them (`Query.filters_of_spaced`).
-/

namespace ArchiveSearch

/-- The first colon behind the name of a field is the one that ends it. -/
theorem Field.colon_not_mem_name (field : Field) : ':' ∉ field.name := by
  cases field <;> decide

namespace Filter

/-- A filter as it is shown, in quotes, so that it is one token whatever gaps the value has. -/
def enclosedText (filter : Filter) : Text :=
  '"' :: filter.text ++ ['"']

theorem quotedText_eq (filter : Filter) :
    filter.quotedText = filter.head ++ ('"' :: filter.value ++ ['"']) :=
  List.append_assoc _ _ _

/-- A filter that a query can spell: its value has no quote, and lowercasing leaves it alone. -/
structure Writable (filter : Filter) : Prop where
  unquoted : '"' ∉ filter.value
  lowered : Text.lower filter.value = filter.value

/-- What stands before a value is kept in a raw token, in quotes and outside. -/
theorem head_kept (filter : Filter) :
    ∀ c ∈ filter.head, c ≠ '"' ∧ Query.isGap c = false := by
  have hall : ∀ field : Field,
      ('-' :: field.name ++ [':']).all (fun c => c != '"' && !Query.isGap c) = true := by
    intro field
    cases field <;> decide
  intro c hc
  have hmem : c ∈ '-' :: filter.field.name ++ [':'] := by
    unfold head at hc
    split at hc
    · exact hc
    · exact List.mem_cons_of_mem '-' hc
  have hkept := List.all_eq_true.mp (hall filter.field) c hmem
  simpa using hkept

/-- The head of a filter has no quotes. -/
theorem quote_not_mem_head (filter : Filter) : '"' ∉ filter.head :=
  fun hmem => (filter.head_kept _ hmem).1 rfl

theorem head_ne (filter : Filter) : filter.head ≠ [] := by
  simp [head]

end Filter

namespace Query

/-- The name of a field is read up to the colon, which is left. -/
theorem readField_name (field : Field) (written : Text) :
    readField (field.name ++ ':' :: written) = .ok (field, ':' :: written) := by
  have hcut : cutAt? ':' (field.name ++ ':' :: written) = some (field.name, written) :=
    cutAt?_eq_some_iff.mpr ⟨rfl, field.colon_not_mem_name⟩
  have hname : Field.ofName? field.name = some field := Field.ofName?_eq_some_iff.mpr rfl
  simp only [readField, hcut, hname]

/-- A field name starts with no hyphen, so the hyphen of a filter is told apart. -/
theorem splitExclude_head (filter : Filter) (written : Text) :
    splitExclude (filter.head ++ written) =
      (filter.exclude, filter.field.name ++ ':' :: written) := by
  obtain ⟨exclude, field, value⟩ := filter
  cases exclude <;> cases field <;> rfl

/-- Whatever is written behind the colon, unless it is nothing, is read as the value. -/
theorem readWritten_head_append (filter : Filter) {written : Text} (hne : written ≠ []) :
    readWritten (filter.head ++ written) =
      .ok (.lowered filter.exclude filter.field (written.filter (!isQuote ·)), []) := by
  have hvalue : readValue written = .ok (written, []) := if_neg (by simpa using hne)
  simp only [readWritten, splitExclude_head, readField_name, readColon, hvalue, bind, Except.bind,
    pure, Except.pure]

/-- What follows the head of a filter is read as its value, without the quotes. -/
theorem readFilter_head_append (filter : Filter) {written : Text} (hne : written ≠ []) :
    readFilter (filter.head ++ written) =
      .ok (.lowered filter.exclude filter.field (written.filter (!isQuote ·))) := by
  rw [readFilter, readWritten_head_append filter hne]
  rfl

theorem filter_isQuote_of_not_mem {value : Text} (h : '"' ∉ value) :
    value.filter (!isQuote ·) = value := by
  rw [List.filter_eq_self]
  intro c hc
  have hne : c ≠ '"' := by
    rintro rfl
    exact h hc
  simp [isQuote, hne]

/-- A value in quotes is read whatever its case, and lowercased. -/
theorem readFilter_quotedText_of_not_mem {filter : Filter} (h : '"' ∉ filter.value) :
    readFilter filter.quotedText =
      .ok (.lowered filter.exclude filter.field filter.value) := by
  have hvalue : ('"' :: filter.value ++ ['"']).filter (!isQuote ·) = filter.value := by
    rw [List.cons_append, List.filter_cons_of_neg (by decide), List.filter_append,
      filter_isQuote_of_not_mem h]
    exact List.append_nil _
  have hne : '"' :: filter.value ++ ['"'] ≠ [] := List.cons_ne_nil _ _
  rw [filter.quotedText_eq, readFilter_head_append filter hne, hvalue]

/-- A writable filter is read back from its quoted form. -/
theorem readFilter_quotedText {filter : Filter} (h : filter.Writable) :
    readFilter filter.quotedText = .ok filter := by
  rw [readFilter_quotedText_of_not_mem h.unquoted, Filter.lowered, h.lowered]

/-- A writable filter is read back from its plain form, if its value is not empty. -/
theorem readFilter_text {filter : Filter} (h : filter.Writable) (hne : filter.value ≠ []) :
    readFilter filter.text = .ok filter := by
  rw [Filter.text, readFilter_head_append filter hne, filter_isQuote_of_not_mem h.unquoted,
    Filter.lowered, h.lowered]

/-- A text inside quotes is one raw token up to the quote that closes them. -/
theorem splitRaw_enclosed {text : Text} (h : '"' ∉ text) :
    splitRaw false ('"' :: text ++ ['"']) = ('"' :: text ++ ['"'], []) := by
  have hkept : ∀ c ∈ text, c ≠ '"' ∧ (true = true ∨ isGap c = false) := by
    intro c hc
    refine ⟨?_, .inl rfl⟩
    rintro rfl
    exact h hc
  rw [List.cons_append, splitRaw_quote_cons, Bool.not_false, splitRaw_append_of_kept hkept]
  rfl

/-- The first spelling starts with no quote, so it is a token with its quotes. -/
theorem tokens_quotedText {filter : Filter} (h : '"' ∉ filter.value) :
    tokens filter.quotedText = [filter.quotedText] := by
  have hkept : ∀ c ∈ filter.head, c ≠ '"' ∧ (false = true ∨ isGap c = false) :=
    fun c hc => ⟨(filter.head_kept c hc).1, .inr (filter.head_kept c hc).2⟩
  have hsplit : splitRaw false filter.quotedText = (filter.quotedText, []) := by
    rw [filter.quotedText_eq, splitRaw_append_of_kept hkept, splitRaw_enclosed h]
  have hhead : filter.quotedText.head? ≠ some '"' := by
    obtain ⟨c, rest, hcons⟩ := List.exists_cons_of_ne_nil filter.head_ne
    have hne : c ≠ '"' := (filter.head_kept c (by simp [hcons])).1
    simpa [filter.quotedText_eq, hcons] using hne
  exact tokens_of_splitRaw_of_head (by simp [Filter.quotedText]) hsplit hhead

/-- The pair of quotes around a text is taken off. -/
theorem stripQuotes_enclosed (text : Text) : stripQuotes ('"' :: text ++ ['"']) = text := by
  have hpair : 2 ≤ ('"' :: text ++ ['"']).length ∧ ('"' :: text ++ ['"']).head? = some '"' ∧
      ('"' :: text ++ ['"']).getLast? = some '"' :=
    ⟨by simp, rfl, List.getLast?_concat⟩
  rw [stripQuotes, if_pos hpair, List.cons_append, List.tail_cons, List.dropLast_concat]

/-- The second spelling is a token without its quotes. -/
theorem tokens_enclosedText {filter : Filter} (h : '"' ∉ filter.value) :
    tokens filter.enclosedText = [filter.text] := by
  have htext : '"' ∉ filter.text := by
    unfold Filter.text
    rw [List.mem_append, not_or]
    exact ⟨filter.quote_not_mem_head, h⟩
  have hne : '"' :: filter.text ++ ['"'] ≠ [] := List.cons_ne_nil _ _
  rw [Filter.enclosedText, tokens_of_splitRaw hne (splitRaw_enclosed htext), stripQuotes_enclosed]

/-- The quoted form of a filter closes the quotes that it opens. -/
theorem balanced_quotedText {filter : Filter} (h : '"' ∉ filter.value) :
    Balanced filter.quotedText := by
  have hhead := List.count_eq_zero.mpr filter.quote_not_mem_head
  have hvalue := List.count_eq_zero.mpr h
  simp [Balanced, Filter.quotedText, hhead, hvalue]

theorem balanced_enclosedText {filter : Filter} (h : '"' ∉ filter.value) :
    Balanced filter.enclosedText := by
  have hhead := List.count_eq_zero.mpr filter.quote_not_mem_head
  have hvalue := List.count_eq_zero.mpr h
  simp [Balanced, Filter.enclosedText, Filter.text, hhead, hvalue]

/-- A token that reads as a filter, alone in a query, has the query mean that filter. -/
theorem filters_of_tokens {query token : Text} {filter : Filter} (htokens : tokens query = [token])
    (hread : readFilter token = .ok filter) : filters query = [filter] := by
  simp only [filters, terms, htokens, List.map_cons, List.map_nil, Term.ofToken, hread,
    Term.toFilter]

/-- A token that is no filter, alone in a query, has the query search the titles for it. -/
theorem filters_of_plain_tokens {query token : Text} {e : ReadError}
    (htokens : tokens query = [token]) (hread : readFilter token = .error e) :
    filters query = [.lowered false .title token] := by
  simp only [filters, terms, htokens, List.map_cons, List.map_nil, Term.ofToken, hread,
    Term.toFilter]

/-- A list of filters is read back from any spelling that each of them is read back from. -/
theorem filters_of_spaced {write : Filter → Text} {list : List Filter} {query : Text}
    (hspaced : Spaced (list.map write) query)
    (hwrite : ∀ filter ∈ list, Balanced (write filter) ∧ filters (write filter) = [filter]) :
    filters query = list := by
  have heven : ∀ text ∈ list.map write, Balanced text := by
    intro text htext
    obtain ⟨filter, hfilter, rfl⟩ := List.mem_map.mp htext
    exact (hwrite filter hfilter).1
  have hread : (list.map write).map filters = list.map fun filter => [filter] := by
    rw [List.map_map]
    exact List.map_congr_left fun filter hfilter => (hwrite filter hfilter).2
  rw [hspaced.filters_eq heven, List.flatMap_def, hread, ← List.flatMap_def]
  exact List.flatMap_singleton' list

/-- **Every list of filters can be written as a query and is read back.** Each filter is written
with quotes around its value, the empty value too, and any breaks may stand between the filters.
Unless a value is empty, the quotes may stand around each whole filter instead. -/
theorem filters_of_written_filters (list : List Filter)
    (hwritable : ∀ filter ∈ list, filter.Writable) :
    (∃ query, Spaced (list.map Filter.quotedText) query) ∧
      (∀ query, Spaced (list.map Filter.quotedText) query → filters query = list) ∧
      ((∀ filter ∈ list, filter.value ≠ []) →
        ∀ query, Spaced (list.map Filter.enclosedText) query → filters query = list) := by
  refine ⟨⟨_, spaced_query _⟩, ?_, ?_⟩
  · intro query hspaced
    apply filters_of_spaced hspaced
    intro filter hfilter
    have h := hwritable filter hfilter
    exact ⟨balanced_quotedText h.unquoted,
      filters_of_tokens (tokens_quotedText h.unquoted) (readFilter_quotedText h)⟩
  · intro hne query hspaced
    apply filters_of_spaced hspaced
    intro filter hfilter
    have h := hwritable filter hfilter
    exact ⟨balanced_enclosedText h.unquoted,
      filters_of_tokens (tokens_enclosedText h.unquoted) (readFilter_text h (hne filter hfilter))⟩

/-- Values with gaps, a line feed and the look of another filter are read back from both spellings,
and the empty value from the first. -/
theorem filters_of_written_filters_like_queries :
    let list : List Filter :=
      [⟨true, .title, "-category:x  y".toList⟩, ⟨false, .category, " :\n".toList⟩]
    filters "-title:\"-category:x  y\"\t category:\" :\n\" title:\"\"".toList =
        list ++ [⟨false, .title, []⟩] ∧
      filters "\"-title:-category:x  y\"\t\"category: :\n\"".toList = list := by
  intro list
  have hspace : IsBreak " ".toList := ⟨by decide, by simp⟩
  have htab : IsBreak "\t".toList := ⟨by decide, by simp⟩
  have hboth : IsBreak "\t ".toList := ⟨by decide, by simp⟩
  have hvalues : ∀ filter ∈ list ++ [⟨false, .title, []⟩],
      '"' ∉ filter.value ∧ Text.lower filter.value = filter.value := by
    decide +kernel
  have hwritable : ∀ filter ∈ list ++ [⟨false, .title, []⟩], filter.Writable :=
    fun filter hfilter => ⟨(hvalues filter hfilter).1, (hvalues filter hfilter).2⟩
  have hlist : ∀ filter ∈ list, filter.Writable :=
    fun filter hfilter => hwritable filter (List.mem_append_left _ hfilter)
  refine ⟨?_, ?_⟩
  · apply (filters_of_written_filters _ hwritable).2.1
    exact .cons hboth (.cons hspace (.single _))
  · apply (filters_of_written_filters list hlist).2.2
    · decide
    · exact .cons htab (.single _)

/-- Quotes around a filter without a value are taken off, and what is left is no filter. -/
example : filters (Filter.enclosedText ⟨false, .title, []⟩) =
    [⟨false, .title, "title:".toList⟩] := by
  decide +kernel

end Query

end ArchiveSearch
