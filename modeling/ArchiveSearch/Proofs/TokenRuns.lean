import ArchiveSearch.Proofs.QuoteParity

/-!
# Tokens are the runs between cuts

A run of a query is a longest stretch without a cut (`Query.IsRun`). The tokens of a query are its
runs, in order, each without one enclosing pair of quotes. The
induction goes along the query, one token at a time, with what was read before kept at hand:
`Query.Division` holds the runs that lie behind that part, and `Query.Division.cons` puts the run of
one more token before them.
-/

namespace ArchiveSearch.Query

/-- The positions from `start` up to `stop`, `stop` left out. -/
structure Span where
  start : Nat
  stop : Nat
  deriving DecidableEq, Repr

/-- The piece of a query at the positions of a span. -/
def Span.text (span : Span) (query : Text) : Text :=
  (query.drop span.start).take (span.stop - span.start)

/-- Whether a position is one of a span. -/
def Span.Holds (span : Span) (position : Nat) : Prop :=
  span.start ≤ position ∧ position < span.stop

/-- A longest stretch of a query without a cut. -/
structure IsRun (query : Text) (run : Span) : Prop where
  bounds : run.start < run.stop ∧ run.stop ≤ query.length
  uncut : ∀ position, run.Holds position → ¬ IsCut query position
  left : run.start = 0 ∨ IsCut query (run.start - 1)
  right : run.stop = query.length ∨ IsCut query run.stop

/-- A run starts no later than another that shares a position with it. -/
theorem IsRun.start_le {query : Text} {run other : Span} {position : Nat} (h : IsRun query run)
    (hother : IsRun query other) (hin : run.Holds position) (hin' : other.Holds position) :
    other.start ≤ run.start := by
  refine Nat.le_of_not_lt fun hlt => ?_
  obtain ⟨hle, hgt⟩ := hin
  obtain ⟨hle', hgt'⟩ := hin'
  rcases hother.left with hzero | hcut
  · omega
  · exact h.uncut (other.start - 1) ⟨by omega, by omega⟩ hcut

theorem IsRun.stop_le {query : Text} {run other : Span} {position : Nat} (h : IsRun query run)
    (hother : IsRun query other) (hin : run.Holds position) (hin' : other.Holds position) :
    run.stop ≤ other.stop := by
  refine Nat.le_of_not_lt fun hlt => ?_
  obtain ⟨hle, hgt⟩ := hin
  obtain ⟨hle', hgt'⟩ := hin'
  have hbounds := h.bounds
  rcases hother.right with hlast | hcut
  · omega
  · exact h.uncut other.stop ⟨by omega, by omega⟩ hcut

/-- Two runs with a position in common are one. -/
theorem IsRun.eq_of_holds {query : Text} {run other : Span} {position : Nat}
    (h : IsRun query run) (hother : IsRun query other) (hin : run.Holds position)
    (hin' : other.Holds position) : run = other := by
  have hstart := Nat.le_antisymm (hother.start_le h hin' hin) (h.start_le hother hin hin')
  have hstop := Nat.le_antisymm (h.stop_le hother hin hin') (hother.stop_le h hin' hin)
  cases run
  cases other
  simp_all

/-- Some texts with gaps before, between and behind them. -/
def weave : List Text → List Text → Text
  | gap :: gaps, raw :: raws => gap ++ (raw ++ weave gaps raws)
  | gap :: _, [] => gap
  | [], _ => []

/-- What the tokens of a text show of the query that `before` and the text make up: the runs of it
that lie in the text. -/
structure Division (before text : Text) (runs : List Span) : Prop where
  isRun : ∀ run ∈ runs, before.length ≤ run.start ∧ IsRun (before ++ text) run
  ordered : runs.Pairwise fun run later => run.stop < later.start
  covered : ∀ position, before.length ≤ position → position < (before ++ text).length →
    IsCut (before ++ text) position ∨ ∃ run ∈ runs, run.Holds position
  tokens_eq : tokens text = runs.map fun run => stripQuotes (run.text (before ++ text))
  woven : ∃ gaps : List Text, gaps.length = runs.length + 1 ∧
    (∀ gap ∈ gaps, ∀ c ∈ gap, isGap c = true) ∧
    text = weave gaps (runs.map fun run => run.text (before ++ text))

/-- The text at a span that lies between two others. -/
theorem Span.text_append (before raw after : Text) :
    Span.text ⟨before.length, before.length + raw.length⟩ (before ++ (raw ++ after)) = raw := by
  simp [Span.text]

/-- A text of gaps has no runs. -/
theorem division_of_gap {before text : Text} {e : ReadError} (h : readToken text = .error e)
    (heven : text = [] ∨ before.count '"' % 2 = 0) : Division before text [] := by
  have hgap := readToken_eq_error h
  refine ⟨by simp, List.Pairwise.nil, ?_, tokens_of_readToken_error h, [text], rfl, by simpa, rfl⟩
  intro position hle hlt
  rw [List.length_append] at hlt
  have heven : before.count '"' % 2 = 0 := by
    rcases heven with rfl | heven
    · simp at hlt; omega
    · exact heven
  obtain ⟨k, rfl⟩ : ∃ k, position = before.length + k := ⟨position - before.length, by omega⟩
  rw [isCut_append_iff heven]
  have hcut := isCut_of_gap hgap [] (show k < text.length by omega)
  rw [List.append_nil] at hcut
  exact Or.inl hcut

/-- Where the gap, the raw token and the rest lie, and what that says of the cuts there. -/
theorem StartsWith.cuts {before text gap raw rest : Text} (h : StartsWith text gap raw rest)
    (heven : before.count '"' % 2 = 0) :
    (∀ k < gap.length, IsCut (before ++ text) (before.length + k)) ∧
    (∀ k < raw.length, ¬ IsCut (before ++ text) (before.length + (gap.length + k))) ∧
    (rest = [] ∨ IsCut (before ++ text) (before.length + (gap.length + raw.length))) := by
  have htext := h.text_eq
  refine ⟨?_, ?_, ?_⟩
  · intro k hk
    rw [isCut_append_iff heven, htext]
    exact isCut_of_gap h.gap_isGap _ hk
  · intro k hk
    rw [isCut_append_iff heven]
    exact h.raw_uncut k hk
  · apply h.rest_cut.imp_right
    intro hbehind
    obtain ⟨hcut, hcount⟩ := hbehind
    have hat := isCut_append_iff hcount rest 0
    rw [List.append_assoc, List.length_append, Nat.add_zero, ← htext] at hat
    rw [isCut_append_iff heven, hat]
    exact hcut

/-- The raw token that a text starts with is a run of the query. -/
theorem StartsWith.isRun {before text gap raw rest : Text} (h : StartsWith text gap raw rest)
    (heven : before.count '"' % 2 = 0) (hstart : before = [] ∨ IsCut text 0) :
    IsRun (before ++ text)
      ⟨before.length + gap.length, before.length + gap.length + raw.length⟩ := by
  obtain ⟨hgap, hraw, hrest⟩ := h.cuts heven
  have hpos : 0 < raw.length := List.length_pos_iff.mpr h.raw_ne
  have hlength : (before ++ text).length =
      before.length + gap.length + raw.length + rest.length := by
    rw [h.text_eq]
    simp only [List.length_append]
    omega
  refine ⟨⟨by simp only; omega, by simp only; omega⟩, ?_, ?_, ?_⟩
  · intro position hholds
    obtain ⟨hle, hlt⟩ := hholds
    simp only at hle hlt
    have hat := hraw (position - (before.length + gap.length)) (by omega)
    rwa [show before.length + (gap.length + (position - (before.length + gap.length))) =
      position by omega] at hat
  · by_cases hnil : gap.length = 0
    · -- without a gap the raw token stands at the start of the query, or else a cut would
      rcases hstart with rfl | hcut
      · exact Or.inl (by simp [hnil])
      · exact absurd ((isCut_append_iff heven text 0).mpr hcut) (by simpa [hnil] using hraw 0 hpos)
    · have hat := hgap (gap.length - 1) (by omega)
      rw [show before.length + (gap.length - 1) = before.length + gap.length - 1 by omega] at hat
      exact Or.inr hat
  · rcases hrest with rfl | hcut
    · exact Or.inl (by simpa using hlength.symm)
    · rw [← Nat.add_assoc] at hcut
      exact Or.inr hcut

/-- Before a position is a cut, in the raw token, or behind it. -/
theorem StartsWith.covered {before text gap raw rest : Text} (h : StartsWith text gap raw rest)
    (heven : before.count '"' % 2 = 0) {position : Nat} (hle : before.length ≤ position) :
    IsCut (before ++ text) position ∨
      Span.Holds ⟨before.length + gap.length, before.length + gap.length + raw.length⟩ position ∨
      (before ++ (gap ++ raw)).length ≤ position := by
  simp only [List.length_append, Span.Holds]
  by_cases hgap : position < before.length + gap.length
  · have hat := (h.cuts heven).1 (position - before.length) (by omega)
    rw [show before.length + (position - before.length) = position by omega] at hat
    exact Or.inl hat
  · right
    omega

/-- Behind a cut, or the end, no run starts at once. -/
theorem Division.lt_start {before text : Text} {runs : List Span} (h : Division before text runs)
    (hstart : text = [] ∨ IsCut (before ++ text) before.length) :
    ∀ run ∈ runs, before.length < run.start := by
  intro run hrun
  obtain ⟨hle, hisRun⟩ := h.isRun run hrun
  have hbounds := hisRun.bounds
  rcases hstart with rfl | hcut
  · rw [List.append_nil] at hbounds
    omega
  · refine Nat.lt_of_le_of_ne hle fun heq => ?_
    exact hisRun.uncut before.length ⟨by omega, by omega⟩ hcut

/-- The runs from a token on: its raw token, and the runs behind it. -/
theorem Division.cons {before text gap raw rest token : Text} {runs : List Span}
    (hread : readToken text = .ok (token, rest)) (htoken : token = stripQuotes raw)
    (h : StartsWith text gap raw rest) (heven : before.count '"' % 2 = 0)
    (hstart : before = [] ∨ IsCut text 0) (tail : Division (before ++ (gap ++ raw)) rest runs) :
    Division before text
      (⟨before.length + gap.length, before.length + gap.length + raw.length⟩ :: runs) := by
  have hquery : before ++ (gap ++ raw) ++ rest = before ++ text := by
    rw [h.text_eq]
    simp only [List.append_assoc]
  have hlength : (before ++ (gap ++ raw)).length = before.length + gap.length + raw.length := by
    simp only [List.length_append]
    omega
  have hspan : Span.text ⟨before.length + gap.length, before.length + gap.length + raw.length⟩
      (before ++ text) = raw := by
    have := Span.text_append (before ++ gap) raw rest
    rwa [List.length_append, List.append_assoc, ← h.text_eq] at this
  have hlater := tail.lt_start (by
    rw [hquery, hlength, Nat.add_assoc]
    exact (h.cuts heven).2.2)
  obtain ⟨hruns, hordered, hcovered, htokens, gaps, hgaps, hallGap, hwoven⟩ := tail
  rw [hquery] at hcovered htokens hwoven
  rw [hlength] at hlater
  refine ⟨?_, List.pairwise_cons.mpr ⟨hlater, hordered⟩, ?_, ?_, gap :: gaps, ?_, ?_, ?_⟩
  · intro run hrun
    rcases List.mem_cons.mp hrun with rfl | hrun
    · exact ⟨Nat.le_add_right _ _, h.isRun heven hstart⟩
    · obtain ⟨hle, hisRun⟩ := hruns run hrun
      rw [hquery] at hisRun
      exact ⟨by omega, hisRun⟩
  · intro position hle hlt
    rcases h.covered heven hle with hcut | hholds | hbehind
    · exact Or.inl hcut
    · exact Or.inr ⟨_, List.mem_cons_self, hholds⟩
    · apply (hcovered position hbehind hlt).imp_right
      intro hlater
      obtain ⟨run, hrun, hholds⟩ := hlater
      exact ⟨run, List.mem_cons_of_mem _ hrun, hholds⟩
  · rw [tokens_of_readToken_ok hread, htokens, htoken, List.map_cons, hspan]
  · simp only [List.length_cons, hgaps]
  · intro piece hpiece
    rcases List.mem_cons.mp hpiece with rfl | hpiece
    · exact h.gap_isGap
    · exact hallGap piece hpiece
  · rw [List.map_cons, hspan, weave, ← hwoven]
    exact h.text_eq

/-- **The tokens of a text divide it into runs and cuts**, if it starts a query or starts behind an
even number of quotes with a cut. -/
theorem exists_division (before text : Text)
    (h : text = [] ∨ before.count '"' % 2 = 0 ∧ (before = [] ∨ IsCut text 0)) :
    ∃ runs, Division before text runs := by
  induction hn : text.length using Nat.strongRecOn generalizing before text with
  | ind n ih =>
      cases hread : readToken text with
      | error e => exact ⟨[], division_of_gap hread (h.imp_right And.left)⟩
      | ok parts =>
          obtain ⟨token, rest⟩ := parts
          obtain ⟨gap, raw, htoken, hparts⟩ := readToken_eq_ok hread
          have hne : text ≠ [] := by
            intro hnil
            have htext := hparts.text_eq
            rw [hnil] at htext
            exact hparts.raw_ne (by simp_all)
          obtain ⟨heven, hstart⟩ := h.resolve_left hne
          have hrest : rest = [] ∨ (before ++ (gap ++ raw)).count '"' % 2 = 0 ∧
              (before ++ (gap ++ raw) = [] ∨ IsCut rest 0) := by
            apply hparts.rest_cut.imp_right
            intro hbehind
            obtain ⟨hcut, hcount⟩ := hbehind
            rw [List.count_append]
            exact ⟨by omega, Or.inr hcut⟩
          have hlt : rest.length < n := hn ▸ readToken_rest_length hread
          obtain ⟨runs, tail⟩ := ih _ hlt (before ++ (gap ++ raw)) rest hrest rfl
          exact ⟨_, tail.cons hread htoken hparts heven hstart⟩

/-- A run with a quote in it that nothing closes goes on to the end. -/
theorem IsRun.stop_eq_of_unclosed {query before after : Text} {run : Span} (h : IsRun query run)
    (hquery : query = before ++ '"' :: after) (heven : before.count '"' % 2 = 0)
    (hafter : '"' ∉ after) (hin : run.Holds before.length) : run.stop = query.length := by
  apply h.right.resolve_right
  intro hcut
  have hstop := hcut.2
  obtain ⟨k, hk⟩ : ∃ k, run.stop = before.length + (k + 1) :=
    ⟨run.stop - before.length - 1, by have := hin.2; omega⟩
  have hnone : quotesBefore after k = 0 :=
    List.count_eq_zero.mpr fun hmem => hafter (List.mem_of_mem_take hmem)
  rw [hquery, hk, quotesBefore_append, quotesBefore_quote_cons, hnone] at hstop
  omega

/-- **The tokens of a query are its maximal runs without a cut.** A cut is a space or a tab with an
even number of quotes before it in the whole query. In their order the tokens are the runs, each
without the pair of quotes around it, and the query is the runs woven with its cuts: every position
is either a cut or in exactly one run. A run with a quote that nothing closes goes on to the end. -/
theorem tokens_eq_maximal_runs (query : Text) :
    ∃ runs : List Span,
      (∀ run, run ∈ runs ↔ IsRun query run) ∧
      (runs.Pairwise fun run later => run.stop < later.start) ∧
      tokens query = runs.map (fun run => stripQuotes (run.text query)) ∧
      (∀ position < query.length,
        IsCut query position ∧ (∀ run ∈ runs, ¬ run.Holds position) ∨
        ¬ IsCut query position ∧ ∃ run ∈ runs, run.Holds position ∧
          ∀ other ∈ runs, other.Holds position → other = run) ∧
      (∃ gaps : List Text, gaps.length = runs.length + 1 ∧
        (∀ gap ∈ gaps, ∀ c ∈ gap, c = ' ' ∨ c = '\t') ∧
        query = weave gaps (runs.map fun run => run.text query)) ∧
      ∀ before after, query = before ++ '"' :: after → before.count '"' % 2 = 0 → '"' ∉ after →
        ∃ run ∈ runs, run.Holds before.length ∧ run.stop = query.length := by
  obtain ⟨runs, hdivision⟩ := exists_division [] query (Or.inr ⟨rfl, Or.inl rfl⟩)
  obtain ⟨hruns, hordered, hcovered, htokens, gaps, hgaps, hallGap, hwoven⟩ := hdivision
  rw [List.nil_append] at hcovered htokens hwoven
  have hisRun : ∀ run ∈ runs, IsRun query run := fun run hrun => (hruns run hrun).2
  have hcover : ∀ position < query.length, ¬ IsCut query position →
      ∃ run ∈ runs, run.Holds position := fun position hlt =>
    (hcovered position (Nat.zero_le _) hlt).resolve_left
  refine ⟨runs, ?_, hordered, htokens, ?_, ⟨gaps, hgaps, ?_, hwoven⟩, ?_⟩
  · intro run
    refine ⟨hisRun run, fun h => ?_⟩
    have hfirst : run.Holds run.start := ⟨Nat.le_refl _, h.bounds.1⟩
    obtain ⟨other, hother, hholds⟩ :=
      hcover run.start (by have := h.bounds; omega) (h.uncut run.start hfirst)
    rw [h.eq_of_holds (hisRun other hother) hfirst hholds]
    exact hother
  · intro position hlt
    by_cases hcut : IsCut query position
    · exact Or.inl ⟨hcut, fun run hrun hholds => (hisRun run hrun).uncut position hholds hcut⟩
    · obtain ⟨run, hrun, hholds⟩ := hcover position hlt hcut
      exact Or.inr ⟨hcut, run, hrun, hholds, fun other hother hholds' =>
        (hisRun other hother).eq_of_holds (hisRun run hrun) hholds' hholds⟩
  · exact fun gap hgap c hc => isGap_iff.mp (hallGap gap hgap c hc)
  · intro before after hquery heven hafter
    have hlt : before.length < query.length := by simp [hquery]
    have huncut : ¬ IsCut query before.length := by
      intro hcut
      have hgap := hcut.1
      simp [hquery] at hgap
    obtain ⟨run, hrun, hholds⟩ := hcover before.length hlt huncut
    exact ⟨run, hrun, hholds, (hisRun run hrun).stop_eq_of_unclosed hquery heven hafter hholds⟩

example : tokens "a\"b c\"d \t\"\" \"x y".toList =
    ["a\"b c\"d".toList, [], "\"x y".toList] := by
  decide +kernel

end ArchiveSearch.Query
