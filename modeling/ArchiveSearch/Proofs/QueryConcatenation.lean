import ArchiveSearch.CommandLine
import ArchiveSearch.Proofs.QuoteParity
import ArchiveSearch.Query.Term

/-!
# Concatenating queries

Two queries with a gap between them are one query, and its tokens are those of the two exactly when
the first has an even number of quotes (`Query.tokens_append_iff`). Of all that a query says to what
is written behind it only its open end matters (`Query.exists_openEnd`): the raw token that the
query ends in, if it ends in one. Where the quotes are even in number the gap closes it
(`Query.tokens_openEnd_append`); where they are odd the gap is quoted and becomes a part of the
token (`Query.tokens_openEnd_append_ne`).

The terms of a command line are joined in the same way, by one space each, so for texts with
breaks between them (`Query.Spaced`) everything is said once.
-/

namespace ArchiveSearch.Query

/-- A text that is not empty and has spaces and tabs only. -/
structure IsBreak (gap : Text) : Prop where
  ne : gap ≠ []
  isGap : ∀ c ∈ gap, c = ' ' ∨ c = '\t'

/-- Every quoted stretch of a text is closed: its quotes are even in number. -/
def Balanced (text : Text) : Prop :=
  text.count '"' % 2 = 0

instance (text : Text) : Decidable (Balanced text) :=
  inferInstanceAs (Decidable (_ = _))

theorem isBreak_space : IsBreak [' '] :=
  ⟨by decide, by simp⟩

theorem IsBreak.all_isGap {gap : Text} (h : IsBreak gap) : ∀ c ∈ gap, Query.isGap c = true :=
  fun c hc => isGap_iff.mpr (h.isGap c hc)

/-- Characters that are no quotes stay in the raw token, unless they are gaps outside quotes. -/
theorem splitRaw_append_of_kept {quoted : Bool} {text : Text}
    (hkept : ∀ c ∈ text, c ≠ '"' ∧ (quoted = true ∨ isGap c = false)) (after : Text) :
    splitRaw quoted (text ++ after) =
      (text ++ (splitRaw quoted after).1, (splitRaw quoted after).2) := by
  induction text with
  | nil => rfl
  | cons c text ih =>
      obtain ⟨hne, hc⟩ := hkept c List.mem_cons_self
      have hstays : (quoted || !isGap c) = true := by simpa using hc
      rw [List.cons_append, splitRaw, if_neg (fun hquote => hne (isQuote_iff.mp hquote)),
        if_pos hstays, ih fun d hd => hkept d (List.mem_cons_of_mem c hd)]
      rfl

/-- A quote stays in the raw token and turns the flag. -/
theorem splitRaw_quote_cons (quoted : Bool) (rest : Text) :
    splitRaw quoted ('"' :: rest) =
      ('"' :: (splitRaw (!quoted) rest).1, (splitRaw (!quoted) rest).2) :=
  rfl

/-- A gap outside quotes ends the raw token. -/
theorem splitRaw_of_head_isGap {text : Text} (h : ∀ c ∈ text.head?, isGap c = true) :
    splitRaw false text = ([], text) := by
  cases text with
  | nil => rfl
  | cons c rest =>
      have hgap : isGap c = true := h c rfl
      have hne : ¬ isQuote c = true := by
        intro hquote
        rw [isQuote_iff.mp hquote] at hgap
        exact absurd hgap (by decide)
      rw [splitRaw, if_neg hne, if_neg (by simp [hgap])]

/-- A text that starts with a raw token does not start with a gap. -/
theorem head_of_splitRaw {text raw rest : Text} (hne : raw ≠ [])
    (hsplit : splitRaw false text = (raw, rest)) : ∀ c ∈ text.head?, isGap c = false := by
  intro c hc
  rw [← Bool.not_eq_true]
  intro hgap
  have hhead : ∀ d ∈ text.head?, isGap d = true := by
    intro d hd
    rwa [Option.mem_unique hd hc]
  rw [splitRaw_of_head_isGap hhead] at hsplit
  exact hne (Prod.mk.inj hsplit).1.symm

/-- A raw token that has ended does not change with what is written behind. -/
theorem splitRaw_append_of_ended {quoted : Bool} {text : Text}
    (hended : (splitRaw quoted text).2 ≠ []) (after : Text) :
    splitRaw quoted (text ++ after) =
      ((splitRaw quoted text).1, (splitRaw quoted text).2 ++ after) := by
  fun_induction splitRaw quoted text with
  | case1 quoted => exact absurd rfl hended
  | case2 quoted c rest hquote parts ih =>
      obtain rfl := isQuote_iff.mp hquote
      rw [List.cons_append, splitRaw_quote_cons, ih hended]
  | case3 quoted c rest hquote hkept parts ih =>
      rw [List.cons_append, splitRaw, if_neg hquote, if_pos hkept, ih hended]
  | case4 quoted c rest hquote hkept =>
      rw [List.cons_append, splitRaw, if_neg hquote, if_neg hkept]

/-- A raw token that has not ended goes on behind, with the flag that its quotes leave. -/
theorem splitRaw_append_of_open {quoted flag : Bool} {text : Text}
    (hopen : (splitRaw quoted text).2 = [])
    (hflag : (quoted.toNat + text.count '"') % 2 = flag.toNat) (after : Text) :
    splitRaw quoted (text ++ after) =
      (text ++ (splitRaw flag after).1, (splitRaw flag after).2) := by
  fun_induction splitRaw quoted text with
  | case1 quoted =>
      have hsame : quoted = flag := by
        revert hflag
        cases quoted <;> cases flag <;> decide
      rw [hsame]
      rfl
  | case2 quoted c rest hquote parts ih =>
      obtain rfl := isQuote_iff.mp hquote
      have hflip : (!quoted).toNat + quoted.toNat = 1 := by cases quoted <;> rfl
      rw [List.count_cons_self] at hflag
      rw [List.cons_append, splitRaw_quote_cons, ih hopen (by omega)]
      rfl
  | case3 quoted c rest hquote hkept parts ih =>
      have hne : c ≠ '"' := fun hc => hquote (isQuote_iff.mpr hc)
      rw [List.count_cons_of_ne hne] at hflag
      rw [List.cons_append, splitRaw, if_neg hquote, if_pos hkept, ih hopen hflag]
      rfl
  | case4 quoted c rest hquote hkept => cases hopen

/-- A gap in front of a text does not change its first token. -/
theorem readToken_gap_append {gap : Text} (hgap : ∀ c ∈ gap, isGap c = true) (text : Text) :
    readToken (gap ++ text) = readToken text := by
  have hskip : (splitGap (gap ++ text)).2 = (splitGap text).2 :=
    List.dropWhile_append_of_pos hgap
  rw [readToken, readToken, hskip]

/-- A raw token at the front of a text is read as its first token. -/
theorem readToken_of_splitRaw {text raw rest : Text} (hne : raw ≠ [])
    (hsplit : splitRaw false text = (raw, rest)) :
    readToken text = .ok (stripQuotes raw, rest) := by
  have hskip : (splitGap text).2 = text := by
    cases text with
    | nil => rfl
    | cons c text =>
        have hc : isGap c = false := head_of_splitRaw hne hsplit c rfl
        exact List.dropWhile_cons_of_neg (by simp [hc])
  rw [readToken, hskip, readRaw, hsplit, if_neg (by simpa using hne)]
  rfl

theorem tokens_nil : tokens [] = [] := by
  have hnone : readToken [] = .error (.noToken []) := rfl
  exact tokens_of_readToken_error hnone

/-- A gap in front of a query adds no token. -/
theorem tokens_gap_append {gap : Text} (hgap : ∀ c ∈ gap, isGap c = true) (text : Text) :
    tokens (gap ++ text) = tokens text := by
  have hread := readToken_gap_append hgap text
  cases hfirst : readToken text with
  | error e =>
      rw [tokens_of_readToken_error (hread.trans hfirst), tokens_of_readToken_error hfirst]
  | ok parts =>
      obtain ⟨token, rest⟩ := parts
      rw [tokens_of_readToken_ok (hread.trans hfirst), tokens_of_readToken_ok hfirst]

/-- A raw token that takes a whole query is its only token. -/
theorem tokens_of_splitRaw {text : Text} (hne : text ≠ [])
    (hsplit : splitRaw false text = (text, [])) : tokens text = [stripQuotes text] := by
  rw [tokens_of_readToken_ok (readToken_of_splitRaw hne hsplit), tokens_nil]

/-- If it starts with no quote, it keeps the quotes that it has. -/
theorem tokens_of_splitRaw_of_head {text : Text} (hne : text ≠ [])
    (hsplit : splitRaw false text = (text, [])) (hhead : text.head? ≠ some '"') :
    tokens text = [text] := by
  rw [tokens_of_splitRaw hne hsplit, stripQuotes, if_neg fun hstripped => hhead hstripped.2.1]

/-- **The open end of a query.** Of what a query says to the text behind it nothing counts but one
raw token that has not ended, or none: the tokens before it are fixed. -/
theorem exists_openEnd (text : Text) :
    ∃ earlier raw, splitRaw false raw = (raw, []) ∧
      raw.count '"' % 2 = text.count '"' % 2 ∧
      ∀ after, tokens (text ++ after) = earlier ++ tokens (raw ++ after) := by
  induction hn : text.length using Nat.strongRecOn generalizing text with
  | ind n ih =>
      cases hread : readToken text with
      | error e =>
          have hgap := readToken_eq_error hread
          refine ⟨[], [], rfl, ?_, ?_⟩
          · rw [count_quote_of_gap hgap]
            rfl
          · exact tokens_gap_append hgap
      | ok parts =>
          obtain ⟨token, rest⟩ := parts
          obtain ⟨gap, raw, htext, hgap, hne, htoken, hsplit⟩ := exists_splitRaw_of_readToken hread
          have hcount : text.count '"' = raw.count '"' + rest.count '"' := by
            rw [htext, List.count_append, List.count_append, count_quote_of_gap hgap]
            omega
          by_cases hrest : rest = []
          · rw [hrest, List.append_nil] at hsplit htext
            refine ⟨[], raw, hsplit, by simp [hcount, hrest], ?_⟩
            intro after
            rw [htext, List.append_assoc]
            exact tokens_gap_append hgap _
          · obtain ⟨earlier, last, hlast, hparity, hafter⟩ :=
              ih _ (hn ▸ readToken_rest_length hread) rest rfl
            have heven := ((splitRaw_uncut hsplit).2.resolve_left hrest).2
            refine ⟨token :: earlier, last, hlast, by omega, ?_⟩
            intro after
            have hended := splitRaw_append_of_ended (by rw [hsplit]; exact hrest) after
            rw [hsplit] at hended
            rw [htext, List.append_assoc, tokens_gap_append hgap,
              tokens_of_readToken_ok (readToken_of_splitRaw hne hended), hafter, htoken]
            rfl

/-- A gap outside quotes closes the open end of a query. -/
theorem tokens_openEnd_append {raw gap : Text} (hsplit : splitRaw false raw = (raw, []))
    (heven : Balanced raw) (hgap : IsBreak gap) (rest : Text) :
    tokens (raw ++ (gap ++ rest)) = tokens raw ++ tokens rest := by
  by_cases hne : raw = []
  · rw [hne, tokens_nil]
    exact tokens_gap_append hgap.all_isGap rest
  · have hflag : (false.toNat + raw.count '"') % 2 = false.toNat := by
      simpa [Balanced] using heven
    have hstop : splitRaw false (gap ++ rest) = ([], gap ++ rest) := by
      obtain ⟨c, gap', rfl⟩ := List.exists_cons_of_ne_nil hgap.ne
      exact splitRaw_of_head_isGap (by simpa using hgap.all_isGap c List.mem_cons_self)
    have hopen := splitRaw_append_of_open (by rw [hsplit]) hflag (gap ++ rest)
    rw [hstop, List.append_nil] at hopen
    rw [tokens_of_readToken_ok (readToken_of_splitRaw hne hopen), tokens_of_splitRaw hne hsplit,
      tokens_gap_append hgap.all_isGap]
    rfl

/-- Taking off an enclosing pair of quotes takes off no gap. -/
theorem countP_isGap_stripQuotes (raw : Text) :
    (stripQuotes raw).countP isGap = raw.countP isGap := by
  have hquote : isGap '"' = false := by decide
  unfold stripQuotes
  split
  next h =>
    obtain ⟨hlength, hhead, hlast⟩ := h
    obtain ⟨inner, rfl⟩ := List.head?_eq_some_iff.mp hhead
    have hne : inner ≠ [] := by
      rintro rfl
      simp at hlength
    rw [List.getLast?_cons_of_ne_nil hne] at hlast
    obtain ⟨body, rfl⟩ := List.getLast?_eq_some_iff.mp hlast
    simp [hquote]
  next => rfl

/-- A gap inside quotes becomes a part of the token at the open end of a query. -/
theorem tokens_openEnd_append_ne {raw gap : Text} (hsplit : splitRaw false raw = (raw, []))
    (hodd : ¬ Balanced raw) (hgap : IsBreak gap) (rest : Text) :
    tokens (raw ++ (gap ++ rest)) ≠ tokens raw ++ tokens rest := by
  have hne : raw ≠ [] := by
    rintro rfl
    exact hodd rfl
  have hkept : ∀ c ∈ gap, c ≠ '"' ∧ (true = true ∨ isGap c = false) := by
    intro c hc
    refine ⟨?_, .inl rfl⟩
    rintro rfl
    exact absurd (hgap.isGap _ hc) (by decide)
  have hflag : (false.toNat + raw.count '"') % 2 = true.toNat := by
    simp only [Bool.toNat_false, Bool.toNat_true, Nat.zero_add]
    exact Nat.mod_two_ne_zero.mp hodd
  have hopen := splitRaw_append_of_open (by rw [hsplit]) hflag (gap ++ rest)
  rw [splitRaw_append_of_kept hkept] at hopen
  have hnonempty : raw ++ (gap ++ (splitRaw true rest).1) ≠ [] := by simp [hne]
  rw [tokens_of_readToken_ok (readToken_of_splitRaw hnonempty hopen), tokens_of_splitRaw hne hsplit]
  intro hsame
  -- the two first tokens differ in their gaps, which no stripping of quotes touches
  have hgaps := congrArg (List.countP isGap) (List.cons.inj hsame).1
  rw [countP_isGap_stripQuotes, countP_isGap_stripQuotes, List.countP_append,
    List.countP_append] at hgaps
  have hall : gap.countP isGap = gap.length := List.countP_eq_length.mpr hgap.all_isGap
  have hpos : 0 < gap.length := List.length_pos_iff.mpr hgap.ne
  omega

/-- Behind a text with an even number of quotes, and nowhere else, a gap keeps queries apart. -/
theorem tokens_append_iff {gap : Text} (hgap : IsBreak gap) (text rest : Text) :
    tokens (text ++ (gap ++ rest)) = tokens text ++ tokens rest ↔ Balanced text := by
  obtain ⟨earlier, raw, hsplit, hparity, hafter⟩ := exists_openEnd text
  have hbalanced : Balanced raw ↔ Balanced text := by
    unfold Balanced
    rw [hparity]
  have htext : tokens text = earlier ++ tokens raw := by simpa using hafter []
  rw [hafter, htext, List.append_assoc, List.append_cancel_left_eq, ← hbalanced]
  constructor
  · intro hsame
    apply Decidable.byContradiction
    intro hodd
    exact tokens_openEnd_append_ne hsplit hodd hgap rest hsame
  · intro heven
    exact tokens_openEnd_append hsplit heven hgap rest

/-- A break behind closed quotes keeps the tokens of two texts apart. -/
theorem tokens_append {text gap : Text} (heven : Balanced text) (hgap : IsBreak gap)
    (rest : Text) : tokens (text ++ (gap ++ rest)) = tokens text ++ tokens rest :=
  (tokens_append_iff hgap text rest).mpr heven

/-- A query is made of some texts in their order, with a break between every two of them. -/
inductive Spaced : List Text → Text → Prop
  | nil : Spaced [] []
  | single (text : Text) : Spaced [text] text
  | cons {text other gap query : Text} {texts : List Text} (hgap : IsBreak gap)
      (tail : Spaced (other :: texts) query) :
      Spaced (text :: other :: texts) (text ++ (gap ++ query))

/-- Breaks neither merge nor split texts with an even number of quotes each. -/
theorem Spaced.tokens_eq {texts : List Text} {query : Text} (h : Spaced texts query)
    (heven : ∀ text ∈ texts, Balanced text) : tokens query = texts.flatMap tokens := by
  induction h with
  | nil => exact tokens_nil
  | single text => simp
  | cons hgap tail ih =>
      rw [tokens_append (heven _ List.mem_cons_self) hgap, List.flatMap_cons,
        ih fun text htext => heven text (List.mem_cons_of_mem _ htext)]

/-- The filters of texts with breaks between them are those of the texts, in order. -/
theorem Spaced.filters_eq {texts : List Text} {query : Text} (h : Spaced texts query)
    (heven : ∀ text ∈ texts, Balanced text) : filters query = texts.flatMap filters := by
  unfold filters terms
  rw [h.tokens_eq heven, List.map_flatMap, List.map_flatMap]

/-- The query of a command line is its terms with a space between every two of them. -/
theorem spaced_query (arguments : List Text) : Spaced arguments (CommandLine.query arguments) := by
  unfold CommandLine.query
  induction arguments with
  | nil => exact .nil
  | cons argument arguments ih =>
      cases arguments with
      | nil =>
          rw [List.intercalate_singleton]
          exact .single argument
      | cons next arguments =>
          rw [List.intercalate_cons_cons, List.append_assoc]
          exact .cons isBreak_space ih

/-- **Concatenating queries concatenates their filters.** Of two texts with a gap between them, the
first with an even number of quotes, the tokens, terms and filters are those of the first and then
those of the second; and with an odd number the tokens are never those. So the query of a command
line with an even number of quotes in each of its terms has the tokens and the filters of its terms,
one term after the other, empty terms among them. -/
theorem filters_of_concatenation (text gap rest : Text) (arguments : List Text)
    (hgap : IsBreak gap) (harguments : ∀ argument ∈ arguments, Balanced argument) :
    (tokens (text ++ (gap ++ rest)) = tokens text ++ tokens rest ↔ Balanced text) ∧
      (Balanced text →
        terms (text ++ (gap ++ rest)) = terms text ++ terms rest ∧
          filters (text ++ (gap ++ rest)) = filters text ++ filters rest) ∧
      tokens (CommandLine.query arguments) = arguments.flatMap tokens ∧
      filters (CommandLine.query arguments) = arguments.flatMap filters := by
  have hspaced := spaced_query arguments
  refine ⟨tokens_append_iff hgap text rest, ?_, hspaced.tokens_eq harguments,
    hspaced.filters_eq harguments⟩
  intro heven
  unfold filters terms
  rw [tokens_append heven hgap, List.map_append, List.map_append]
  exact ⟨rfl, rfl⟩

/-- The first text ends in a closed quote, the second starts with a gap and has a quote that nothing
closes; and of the arguments one is empty, one is all gap and one has a gap inside quotes. -/
theorem filters_of_concatenation_at_quotes :
    let text := "a \"b c\"".toList
    let gap := "\t ".toList
    let rest := " -title:\"x y".toList
    let arguments := ["rust".toList, [], " \t".toList, "\"async io\"".toList]
    IsBreak gap ∧ Balanced text ∧ (∀ argument ∈ arguments, Balanced argument) ∧
      tokens (text ++ (gap ++ rest)) =
        ["a".toList, "b c".toList, "-title:\"x y".toList] ∧
      filters (CommandLine.query arguments) =
        [⟨false, .title, "rust".toList⟩, ⟨false, .title, "async io".toList⟩] := by
  intro text gap rest arguments
  have hgap : IsBreak gap := ⟨by decide, by simp [gap]⟩
  have heven : Balanced text := by decide
  have harguments : ∀ argument ∈ arguments, Balanced argument := by
    simp only [arguments, List.forall_mem_cons, List.not_mem_nil, false_imp_iff, implies_true]
    decide
  have h := filters_of_concatenation text gap rest arguments hgap harguments
  refine ⟨hgap, heven, harguments, ?_, ?_⟩
  · rw [h.1.mpr heven]
    decide +kernel
  · rw [h.2.2.2]
    decide +kernel

end ArchiveSearch.Query
