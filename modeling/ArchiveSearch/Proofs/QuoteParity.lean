import ArchiveSearch.Query.Token

/-!
# Quote parity

A gap of a query is a cut when the quotes before it, counted from the start of the query, are even
in number (`Query.IsCut`). The reading of tokens counts no further back than the token it is in:
it keeps one flag, which starts anew with every token. `Query.splitRaw_gap_odd` and
`Query.splitRaw_rest_even` say that the flag is the parity of the quotes read so far, and
`Query.isCut_append_iff` that an even number of quotes before a text changes none of its cuts; so
the flag of a token agrees with the count over the whole query.

`Query.readToken_eq_ok` and `Query.readToken_eq_error` are what later modules use of the reading: a
text starts with a token or is all gap, and `Query.StartsWith` tells where the cuts lie.
-/

namespace ArchiveSearch.Query

/-- The number of quotes before a position, counted from the start of the query. -/
def quotesBefore (query : Text) (position : Nat) : Nat :=
  (query.take position).count '"'

/-- A space or tab is a cut where the quotes before it are even in number. -/
def IsCut (query : Text) (position : Nat) : Prop :=
  (query[position]? = some ' ' ∨ query[position]? = some '\t') ∧
    quotesBefore query position % 2 = 0

/-- The quotes in front of a text count for every position in it. -/
theorem quotesBefore_append (before text : Text) (position : Nat) :
    quotesBefore (before ++ text) (before.length + position) =
      before.count '"' + quotesBefore text position := by
  rw [quotesBefore, List.take_length_add_append, List.count_append]
  rfl

/-- What stands before counts only by whether its quotes are even in number. -/
theorem isCut_append_iff {before : Text} (h : before.count '"' % 2 = 0) (text : Text)
    (position : Nat) :
    IsCut (before ++ text) (before.length + position) ↔ IsCut text position := by
  rw [IsCut, IsCut, quotesBefore_append, List.getElem?_append_right (by omega),
    Nat.add_sub_cancel_left]
  apply and_congr_right
  intro _
  omega

/-- What stands behind does not matter. -/
theorem isCut_append_left_iff {text : Text} {position : Nat} (h : position < text.length)
    (after : Text) : IsCut (text ++ after) position ↔ IsCut text position := by
  rw [IsCut, IsCut, quotesBefore, quotesBefore, List.getElem?_append_left h,
    List.take_append_of_le_length (by omega)]

theorem quotesBefore_quote_cons (rest : Text) (position : Nat) :
    quotesBefore ('"' :: rest) (position + 1) = quotesBefore rest position + 1 := by
  simp [quotesBefore]

theorem quotesBefore_cons_of_ne {c : Char} (h : c ≠ '"') (rest : Text) (position : Nat) :
    quotesBefore (c :: rest) (position + 1) = quotesBefore rest position := by
  rw [quotesBefore, List.take_succ_cons, List.count_cons_of_ne h]
  rfl

/-- The flag of the scan is the parity of the quotes so far: a gap that stays inside the raw token
has an odd number of them before it. -/
theorem splitRaw_gap_odd (quoted : Bool) (text : Text) (position : Nat)
    (hgap : (splitRaw quoted text).1[position]? = some ' ' ∨
      (splitRaw quoted text).1[position]? = some '\t') :
    (quoted.toNat + quotesBefore (splitRaw quoted text).1 position) % 2 = 1 := by
  fun_induction splitRaw quoted text generalizing position with
  | case1 quoted => simp at hgap
  | case2 quoted c rest hquote parts ih =>
      obtain rfl := isQuote_iff.mp hquote
      cases position with
      | zero => simp at hgap
      | succ position =>
          have hodd : ((!quoted).toNat + quotesBefore parts.1 position) % 2 = 1 :=
            ih position (by simpa using hgap)
          have hflip : (!quoted).toNat + quoted.toNat = 1 := by cases quoted <;> rfl
          rw [quotesBefore_quote_cons]
          omega
  | case3 quoted c rest hquote hkept parts ih =>
      have hne : c ≠ '"' := fun hc => hquote (isQuote_iff.mpr hc)
      cases position with
      | zero =>
          have hc : isGap c = true := isGap_iff.mpr (by simpa using hgap)
          simp only [hc, Bool.not_true, Bool.or_false] at hkept
          rw [hkept]
          rfl
      | succ position =>
          rw [quotesBefore_cons_of_ne hne]
          exact ih position (by simpa using hgap)
  | case4 quoted c rest hquote hkept => simp at hgap

/-- A raw token ends with the text, or before a gap with an even number of quotes before it. -/
theorem splitRaw_rest_even (quoted : Bool) (text : Text) :
    (splitRaw quoted text).2 = [] ∨
      (∃ c rest, (splitRaw quoted text).2 = c :: rest ∧ isGap c = true) ∧
        (quoted.toNat + (splitRaw quoted text).1.count '"') % 2 = 0 := by
  fun_induction splitRaw quoted text with
  | case1 quoted => exact Or.inl rfl
  | case2 quoted c rest hquote parts ih =>
      obtain rfl := isQuote_iff.mp hquote
      refine ih.imp_right (And.imp_right fun heven => ?_)
      change ((!quoted).toNat + parts.1.count '"') % 2 = 0 at heven
      have hflip : (!quoted).toNat + quoted.toNat = 1 := by cases quoted <;> rfl
      rw [List.count_cons_self]
      omega
  | case3 quoted c rest hquote hkept parts ih =>
      have hne : c ≠ '"' := fun hc => hquote (isQuote_iff.mpr hc)
      rwa [List.count_cons_of_ne hne]
  | case4 quoted c rest hquote hkept =>
      simp only [Bool.or_eq_true, Bool.not_eq_true', not_or, Bool.not_eq_true,
        Bool.not_eq_false] at hkept
      refine Or.inr ⟨⟨c, rest, rfl, hkept.2⟩, ?_⟩
      rw [hkept.1]
      rfl

/-- A text that starts with a token, taken apart: a gap, the raw token, and what follows it. -/
structure StartsWith (text gap raw rest : Text) : Prop where
  text_eq : text = gap ++ (raw ++ rest)
  gap_isGap : ∀ c ∈ gap, isGap c = true
  raw_ne : raw ≠ []
  raw_uncut : ∀ position < raw.length, ¬ IsCut text (gap.length + position)
  rest_cut : rest = [] ∨ IsCut rest 0 ∧ (gap ++ raw).count '"' % 2 = 0

theorem count_quote_of_gap {gap : Text} (h : ∀ c ∈ gap, isGap c = true) : gap.count '"' = 0 := by
  rw [List.count_eq_zero]
  intro hmem
  exact absurd (h _ hmem) (by decide)

/-- Gaps outside quotes are cuts. -/
theorem isCut_of_gap {gap : Text} (h : ∀ c ∈ gap, isGap c = true) (rest : Text) {position : Nat}
    (hposition : position < gap.length) : IsCut (gap ++ rest) position := by
  rw [isCut_append_left_iff hposition]
  refine ⟨?_, ?_⟩
  · rw [List.getElem?_eq_getElem hposition, Option.some_inj, Option.some_inj]
    exact isGap_iff.mp (h _ (List.getElem_mem hposition))
  · rw [quotesBefore, count_quote_of_gap fun c hc => h c (List.mem_of_mem_take hc)]

/-- Where a raw token that is split off ends: it has no cut in it, and the rest starts with one. -/
theorem splitRaw_uncut {text raw rest : Text} (h : splitRaw false text = (raw, rest)) :
    (∀ position < raw.length, ¬ IsCut raw position) ∧
      (rest = [] ∨ IsCut rest 0 ∧ raw.count '"' % 2 = 0) := by
  have hinside := splitRaw_gap_odd false text
  have hend := splitRaw_rest_even false text
  rw [h] at hinside hend
  simp only [Bool.toNat_false, Nat.zero_add] at hinside hend
  refine ⟨?_, ?_⟩
  · intro position _ hcut
    obtain ⟨hgap, heven⟩ := hcut
    have hodd := hinside position hgap
    omega
  · apply hend.imp_right
    intro hbehind
    obtain ⟨⟨c, tail, rfl, hc⟩, heven⟩ := hbehind
    exact ⟨⟨by simpa using isGap_iff.mp hc, rfl⟩, heven⟩

/-- What is split off as a gap is spaces and tabs. -/
theorem splitGap_isGap (text : Text) : ∀ c ∈ (splitGap text).1, isGap c = true :=
  List.all_eq_true.mp List.all_takeWhile

/-- A raw token behind a gap is what a text starts with. -/
theorem startsWith_append {gap raw rest : Text} (hgap : ∀ c ∈ gap, isGap c = true)
    (hne : raw ≠ []) (huncut : ∀ position < raw.length, ¬ IsCut raw position)
    (hend : rest = [] ∨ IsCut rest 0 ∧ raw.count '"' % 2 = 0) :
    StartsWith (gap ++ (raw ++ rest)) gap raw rest := by
  have hcount := count_quote_of_gap hgap
  refine ⟨rfl, hgap, hne, ?_, ?_⟩
  · intro position hposition
    rw [isCut_append_iff (by omega), isCut_append_left_iff hposition]
    exact huncut position hposition
  · rwa [List.count_append, hcount, Nat.zero_add]

/-- The first token of a text is a raw token behind a gap. -/
theorem exists_splitRaw_of_readToken {text token rest : Text}
    (h : readToken text = .ok (token, rest)) :
    ∃ gap raw, text = gap ++ (raw ++ rest) ∧ (∀ c ∈ gap, isGap c = true) ∧ raw ≠ [] ∧
      token = stripQuotes raw ∧ splitRaw false (raw ++ rest) = (raw, rest) := by
  have htext : (splitGap text).1 ++ (splitGap text).2 = text := List.takeWhile_append_dropWhile
  have hgap := splitGap_isGap text
  rw [readToken] at h
  generalize splitGap text = parts at h htext hgap
  obtain ⟨gap, after⟩ := parts
  have happend := splitRaw_append false after
  rw [readRaw] at h
  split at h
  next => cases h
  next hne =>
    cases h
    refine ⟨gap, (splitRaw false after).1, ?_, hgap, by simpa using hne, rfl, ?_⟩
    · rw [happend]
      exact htext.symm
    · rw [happend]

/-- A token that is read is what the text starts with, without the quotes around it. -/
theorem readToken_eq_ok {text token rest : Text} (h : readToken text = .ok (token, rest)) :
    ∃ gap raw, token = stripQuotes raw ∧ StartsWith text gap raw rest := by
  obtain ⟨gap, raw, rfl, hgap, hne, htoken, hsplit⟩ := exists_splitRaw_of_readToken h
  obtain ⟨huncut, hend⟩ := splitRaw_uncut hsplit
  exact ⟨gap, raw, htoken, startsWith_append hgap hne huncut hend⟩

/-- A character that is no gap starts a raw token, quoted or not. -/
theorem splitRaw_cons_ne_nil {c : Char} (hc : isGap c = false) (quoted : Bool) (rest : Text) :
    (splitRaw quoted (c :: rest)).1 ≠ [] := by
  rw [splitRaw]
  split
  next => exact List.cons_ne_nil _ _
  next =>
    rw [if_pos (by simp [hc])]
    exact List.cons_ne_nil _ _

/-- A text that starts with no token is all gap. -/
theorem readToken_eq_error {text : Text} {e : ReadError} (h : readToken text = .error e) :
    ∀ c ∈ text, isGap c = true := by
  have htext : (splitGap text).1 ++ (splitGap text).2 = text := List.takeWhile_append_dropWhile
  have hgap := splitGap_isGap text
  have hhead : ∀ c rest, (splitGap text).2 = c :: rest → isGap c = false := by
    intro c rest hafter
    have := List.head?_dropWhile_not isGap text
    rwa [show text.dropWhile isGap = c :: rest from hafter] at this
  rw [readToken] at h
  cases hafter : (splitGap text).2 with
  | nil =>
      rw [hafter, List.append_nil] at htext
      rwa [htext] at hgap
  | cons c rest =>
      rw [hafter, readRaw, if_neg] at h
      · cases h
      · simpa using splitRaw_cons_ne_nil (hhead c rest hafter) false rest

end ArchiveSearch.Query
