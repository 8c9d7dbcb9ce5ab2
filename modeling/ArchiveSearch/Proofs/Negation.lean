import ArchiveSearch.Proofs.Conjunction
import ArchiveSearch.Proofs.FilterGrammar
import ArchiveSearch.Proofs.LiteralSearch
import ArchiveSearch.Proofs.Lowercase

/-!
# The hyphen in front

A hyphen in front of a token is a sign or a letter, and which of the two it is depends on what
follows it. In front of a written filter it is the sign that turns the filter round, so the two
queries show each what the other hides. In front of anything else it is a letter of a longer text to
look for in the titles, so the query with the hyphen shows no more than the one without.
`Query.filters_hyphen_cons` puts the two cases side by side.
-/

namespace ArchiveSearch

/-- A hyphen is no letter, so it neither changes nor has the text behind it changed. -/
theorem Text.lower_hyphen_cons (text : Text) : lower ('-' :: text) = '-' :: lower text := by
  have hhyphen : IsLowered '-' := isLowered_of_lt (by decide)
  have huncased : endsCased false '-' = false := by decide +kernel
  rw [lower, lowerAfter, lowerBetween_of_isLowered hhyphen, huncased]
  rfl

namespace Query

/-- One raw token and nothing else, which starts with neither a quote nor a hyphen. -/
structure IsBare (text : Text) : Prop where
  readRaw_eq : readRaw text = .ok (text, [])
  quote : text.head? ≠ some '"'
  hyphen : text.head? ≠ some '-'

theorem splitRaw_of_readRaw {text raw rest : Text} (h : readRaw text = .ok (raw, rest)) :
    splitRaw false text = (raw, rest) ∧ raw ≠ [] := by
  rw [readRaw] at h
  split at h
  next => cases h
  next hne =>
    have hparts := Except.ok.inj h
    rw [hparts] at hne
    exact ⟨hparts, by simpa using hne⟩

/-- A bare text is its own only token. -/
theorem IsBare.tokens_eq {text : Text} (h : IsBare text) : tokens text = [text] := by
  obtain ⟨hsplit, hne⟩ := splitRaw_of_readRaw h.readRaw_eq
  exact tokens_of_splitRaw_of_head hne hsplit h.quote

/-- A hyphen in front belongs to the token. -/
theorem IsBare.tokens_hyphen_cons {text : Text} (h : IsBare text) :
    tokens ('-' :: text) = ['-' :: text] := by
  have hkept : ∀ c ∈ ['-'], c ≠ '"' ∧ (false = true ∨ isGap c = false) := by
    intro c hc
    rw [List.mem_singleton.mp hc]
    decide
  have hsplit : splitRaw false (['-'] ++ text) = ('-' :: text, []) := by
    rw [splitRaw_append_of_kept hkept, (splitRaw_of_readRaw h.readRaw_eq).1]
    rfl
  exact tokens_of_splitRaw_of_head (List.cons_ne_nil _ _) hsplit (by simp)

theorem IsBare.unsigned_eq {text : Text} (h : IsBare text) : unsigned text = text :=
  if_neg h.hyphen

/-- One hyphen in front is taken off, and no more. -/
theorem unsigned_hyphen_cons (text : Text) : unsigned ('-' :: text) = text :=
  rfl

/-- A filter that starts with no hyphen does not exclude, and with a hyphen in front it does. -/
theorem IsWritten.hyphen_cons {text written : Text} {exclude : Bool} {field : Field}
    (h : IsWritten text exclude field written) (hhyphen : text.head? ≠ some '-') :
    exclude = false ∧ IsWritten ('-' :: text) true field written := by
  cases exclude with
  | true =>
      rw [h.token_eq] at hhyphen
      exact absurd rfl hhyphen
  | false => exact ⟨rfl, by rw [h.token_eq]; rfl, h.ne⟩

/-- **What a hyphen in front makes of a token.** A written filter becomes the excluding one, and any
other token stays a search in the titles, with the hyphen in what is looked for. -/
theorem filters_hyphen_cons {text : Text} (h : IsBare text) :
    (∃ field value, readFilter text = .ok (.lowered false field value) ∧
      filters text = [.lowered false field value] ∧
      filters ('-' :: text) = [.lowered true field value]) ∨
    ∃ e, readFilter text = .error e ∧ filters text = [.lowered false .title text] ∧
      filters ('-' :: text) = [.lowered false .title ('-' :: text)] := by
  rcases exists_isWritten_or_explains text with ⟨exclude, field, written, hwritten⟩ | ⟨e, he⟩
  · left
    obtain ⟨rfl, hsigned⟩ := hwritten.hyphen_cons h.hyphen
    exact ⟨field, written.filter (!isQuote ·), hwritten.readFilter_eq,
      filters_of_tokens h.tokens_eq hwritten.readFilter_eq,
      filters_of_tokens h.tokens_hyphen_cons hsigned.readFilter_eq⟩
  · right
    have hplain : readFilter text = .error e := he.readFilter_eq
    -- the hyphen is taken off again before the error is found
    rw [h.unsigned_eq, ← unsigned_hyphen_cons text] at he
    exact ⟨e, hplain, filters_of_plain_tokens h.tokens_eq hplain,
      filters_of_plain_tokens h.tokens_hyphen_cons he.readFilter_eq⟩

end Query

/-- An excluding filter shows what the same filter without the exclusion hides. -/
theorem isVisible_excluded_iff {α : Type} [Candidate α] {field : Field} {value : Text}
    {candidate : α} :
    isVisible [.lowered true field value] candidate = true ↔
      ¬ isVisible [.lowered false field value] candidate = true := by
  rw [isVisible_lowered_iff, isVisible_lowered_iff]
  simp

/-- What holds a longer text holds the shorter one too. -/
theorem isVisible_of_hyphen_cons {α : Type} [Candidate α] {text : Text} {candidate : α}
    (h : isVisible [.lowered false .title ('-' :: text)] candidate = true) :
    isVisible [.lowered false .title text] candidate = true := by
  rw [isVisible_lowered_iff, Text.lower_hyphen_cons] at h
  apply isVisible_of_infix
  exact (List.suffix_cons '-' (Text.lower text)).isInfix.trans (h.mpr rfl)

namespace Page

/-- **A hyphen in front negates filters, and nothing else.** Take one raw token that starts with
neither a quote nor a hyphen, whatever quotes it has elsewhere. If it is a written filter, a page
shows after the query with a hyphen in front just the entries that it hides after the query without.
If it is none, both queries search the titles, for the lowercase form of the token with and without
the hyphen, and what is shown after the one is shown after the other as well. -/
theorem hyphen_negates_filters (page : Page) (text : Text)
    (hraw : Query.readRaw text = .ok (text, [])) (hquote : text.head? ≠ some '"')
    (hhyphen : text.head? ≠ some '-') :
    ((∃ filter, Query.readFilter text = .ok filter) →
      ∀ position entry, page.entries[position]? = some entry →
        ((page.runQuery ('-' :: text)).ShowsAt position { entry with visible := true } ↔
          ¬ (page.runQuery text).ShowsAt position { entry with visible := true })) ∧
      ((∃ e, Query.readFilter text = .error e) →
        Query.filters text = [⟨false, .title, Text.lower text⟩] ∧
          Query.filters ('-' :: text) = [⟨false, .title, '-' :: Text.lower text⟩] ∧
          ∀ position entry, (page.runQuery ('-' :: text)).ShowsAt position entry →
            (page.runQuery text).ShowsAt position entry) := by
  have hbare : Query.IsBare text := ⟨hraw, hquote, hhyphen⟩
  constructor
  · intro hfilter position entry hentry
    obtain ⟨filter, hread⟩ := hfilter
    rcases Query.filters_hyphen_cons hbare with ⟨field, value, -, hplain, hsigned⟩ | ⟨e, herror, -⟩
    · rw [showsAt_runQuery_of_stored hentry, showsAt_runQuery_of_stored hentry, hplain, hsigned]
      exact isVisible_excluded_iff
    · rw [hread] at herror
      cases herror
  · intro herror
    obtain ⟨e, hread⟩ := herror
    rcases Query.filters_hyphen_cons hbare with ⟨field, value, hok, -⟩ | ⟨_, -, hplain, hsigned⟩
    · rw [hread] at hok
      cases hok
    · refine ⟨hplain, ?_, ?_⟩
      · rw [hsigned, Filter.lowered, Text.lower_hyphen_cons]
      · intro position entry hshown
        obtain ⟨stored, hstored, hverdict, rfl⟩ := showsAt_runQuery_iff.mp hshown
        rw [showsAt_runQuery_of_stored hstored, hplain]
        rw [hsigned] at hverdict
        exact isVisible_of_hyphen_cons hverdict

/-- A filter with a quoted gap in its value; and a text that names no field, with a sigma behind a
quote that nothing closes. The entry that is shown first was hidden before. -/
theorem hyphen_negates_filters_of_teas :
    let drink : Entry := { title := "-tea:\"σ".toList, categories := "hot drinks".toList }
    let cake : Entry := { title := "tea:\"σ".toList, categories := "cakes".toList }
    let page : Page := { entries := [drink, { cake with visible := false }] }
    let written := "category:\"T D\"".toList
    let plain := "Tea:\"Σ".toList
    Query.readRaw written = .ok (written, []) ∧ Query.readRaw plain = .ok (plain, []) ∧
      (page.runQuery ('-' :: written)).ShowsAt 1 cake ∧
      ¬ (page.runQuery ('-' :: written)).ShowsAt 0 drink ∧
      Query.filters ('-' :: plain) = [⟨false, .title, "-tea:\"σ".toList⟩] ∧
      (page.runQuery ('-' :: plain)).ShowsAt 0 drink ∧ (page.runQuery plain).ShowsAt 0 drink := by
  intro drink cake page written plain
  have hwritten := hyphen_negates_filters page written rfl (by decide) (by decide)
  have hplain := hyphen_negates_filters page plain rfl (by decide) (by decide)
  have hcomplement := hwritten.1 ⟨⟨false, .category, "t d".toList⟩, rfl⟩
  obtain ⟨-, hsigned, hmore⟩ := hplain.2 ⟨.unknownField plain, rfl⟩
  have hshown : (page.runQuery ('-' :: plain)).ShowsAt 0 drink := by decide +kernel
  refine ⟨rfl, rfl, ?_, ?_, ?_, hshown, hmore 0 drink hshown⟩
  · have hcake := hcomplement 1 { cake with visible := false } rfl
    exact hcake.mpr (by decide +kernel)
  · rw [hcomplement 0 drink rfl, Decidable.not_not]
    decide +kernel
  · rw [hsigned]
    decide +kernel

end Page

end ArchiveSearch
