import ArchiveSearch.Page.Entry
import ArchiveSearch.Proofs.FilterGrammar
import ArchiveSearch.Proofs.Lowercase
import Mathlib.Data.List.Forall2

/-!
# The normal form of queries

Whatever a query looks like, its filters are in normal form: there is one for each token, its value
is lowercased for good, and it has no quotes unless it is the search for a plain token, whose own
quotes they are then. What a token means is stated here by the grammar of filters alone
(`Query.Means`), and each part of the normal form follows from that (`Query.Means.isNormal`). It
rests on two facts about lowercasing: doing it twice is doing it once, and it neither brings in
quotes nor takes any away. Entries are in the same form, so lowercasing a post first makes no
difference to its entry.
-/

namespace ArchiveSearch

namespace Query

/-- What a token means: the filter that it is written as, with the value lowercased and all quotes
taken out of it; or, if it is no written filter, a search in the titles for the token, lowercased
with its quotes. -/
inductive Means (token : Text) : Filter → Prop
  | written {exclude : Bool} {field : Field} {written : Text}
      (h : IsWritten token exclude field written) :
      Means token ⟨exclude, field, Text.lower (written.filter (· != '"'))⟩
  | plain (h : ∀ exclude field written, ¬ IsWritten token exclude field written) :
      Means token ⟨false, .title, Text.lower token⟩

/-- A filter in normal form, as the meaning of a token. -/
structure IsNormal (token : Text) (filter : Filter) : Prop where
  means : Means token filter
  lowered : Text.lower filter.value = filter.value
  unquoted : filter.exclude = true ∨ filter.field = .category → '"' ∉ filter.value
  /-- The quotes of a value are those of the token, which is plain. -/
  own_quotes : '"' ∈ filter.value → Term.ofToken token = .plain token ∧
    filter.value = Text.lower token ∧ filter.value.count '"' = token.count '"'

/-- A token that is written as no filter is plain. -/
theorem ofToken_eq_plain {token : Text}
    (h : ∀ exclude field written, ¬ IsWritten token exclude field written) :
    Term.ofToken token = .plain token := by
  rcases exists_isWritten_or_explains token with ⟨exclude, field, written, hwritten⟩ | ⟨e, he⟩
  · exact absurd hwritten (h exclude field written)
  · exact ofToken_eq_plain_iff.mpr ⟨e, he.readWritten_eq⟩

/-- The filter of a token means what the token says. -/
theorem means_toFilter (token : Text) : Means token (Term.ofToken token).toFilter := by
  by_cases hwritten : ∃ exclude field written, IsWritten token exclude field written
  · obtain ⟨exclude, field, written, h⟩ := hwritten
    rw [h.ofToken_eq]
    exact .written h
  · have h : ∀ exclude field written, ¬ IsWritten token exclude field written := by
      intro exclude field written h
      exact hwritten ⟨exclude, field, written, h⟩
    rw [ofToken_eq_plain h]
    exact .plain h

theorem quote_not_mem_lower_filter (written : Text) :
    '"' ∉ Text.lower (written.filter (· != '"')) := by
  intro hmem
  have hkept := (List.mem_filter.mp (Text.mem_lower_of_lt (by decide) hmem)).2
  exact absurd hkept (by decide)

/-- The meaning of a token is in normal form. -/
theorem Means.isNormal {token : Text} {filter : Filter} (h : Means token filter) :
    IsNormal token filter := by
  cases h with
  | written hwritten =>
      refine ⟨.written hwritten, Text.lower_lower _, ?_, ?_⟩
      · intro _
        exact quote_not_mem_lower_filter _
      · intro hmem
        exact absurd hmem (quote_not_mem_lower_filter _)
  | plain hplain =>
      refine ⟨.plain hplain, Text.lower_lower token, ?_, ?_⟩
      · intro hfilter
        rcases hfilter with hexclude | hfield
        · cases hexclude
        · cases hfield
      · intro _
        exact ⟨ofToken_eq_plain hplain, rfl, Text.count_lower_of_lt (by decide) token⟩

/-- A written filter is in a form that can be written again. -/
theorem writable_of_ofToken {token : Text} {filter : Filter}
    (h : Term.ofToken token = .filter filter) : filter.Writable := by
  have hnormal := (means_toFilter token).isNormal
  rw [h] at hnormal
  refine ⟨?_, hnormal.lowered⟩
  intro hmem
  have hplain := (hnormal.own_quotes hmem).1
  rw [h] at hplain
  cases hplain

end Query

/-- Lowercasing a post first makes no difference to its entry. -/
theorem Entry.ofPost_lower (separator : Text) (post : Post) :
    ofPost separator ⟨Text.lower post.title, post.categories.map Text.lower⟩ =
      ofPost separator post := by
  have hcategories : (post.categories.map Text.lower).map Text.lower =
      post.categories.map Text.lower := by
    rw [List.map_map]
    exact List.map_congr_left fun category _ => Text.lower_lower category
  unfold ofPost
  simp only [hcategories, Text.lower_lower]

namespace Query

/-- **Queries and entries are in normal form.** The filters of a query are, in order, the meanings
of its tokens, one each, in normal form. The terms that are written filters can be written again:
their values have no quotes and lowercasing leaves them alone. And the entry of a post is the entry
of the same post in lower case. -/
theorem filters_are_normal (query : Text) :
    List.Forall₂ IsNormal (tokens query) (filters query) ∧
      (∀ filter, Term.filter filter ∈ terms query → filter.Writable) ∧
      ∀ separator post,
        Entry.ofPost separator ⟨Text.lower post.title, post.categories.map Text.lower⟩ =
          Entry.ofPost separator post := by
  refine ⟨?_, ?_, Entry.ofPost_lower⟩
  · unfold filters terms
    rw [List.map_map, List.forall₂_map_right_iff, List.forall₂_same]
    exact fun token _ => (means_toFilter token).isNormal
  · intro filter hfilter
    obtain ⟨token, -, htoken⟩ := List.mem_map.mp hfilter
    exact writable_of_ofToken htoken

/-- A category in quotes with a dotted `İ` and a sigma that does not end a word, and a plain token
with a quote that nothing closes and a sigma that does. -/
theorem filters_are_normal_at_sigmas :
    let query := "-category:\"İΣ\"x  Σ\"ΑΣ".toList
    let written : Filter := ⟨true, .category, "i\u0307σx".toList⟩
    let plain : Filter := ⟨false, .title, "σ\"ας".toList⟩
    terms query = [.filter written, .plain "Σ\"ΑΣ".toList] ∧ written.Writable ∧
      IsNormal "Σ\"ΑΣ".toList plain ∧ plain.value.count '"' = 1 ∧
      Entry.ofPost ",".toList ⟨"ας".toList, ["i\u0307ς".toList]⟩ =
        Entry.ofPost ",".toList ⟨"ΑΣ".toList, ["İΣ".toList]⟩ := by
  intro query written plain
  obtain ⟨hnormal, hwritable, hentry⟩ := filters_are_normal query
  have hterms : terms query = [.filter written, .plain "Σ\"ΑΣ".toList] := by decide +kernel
  have htokens : tokens query = ["-category:\"İΣ\"x".toList, "Σ\"ΑΣ".toList] := by decide +kernel
  have hfilters : filters query = [written, plain] := by decide +kernel
  have htitle : Text.lower "ΑΣ".toList = "ας".toList := by decide +kernel
  have hcategory : ["İΣ".toList].map Text.lower = ["i\u0307ς".toList] := by decide +kernel
  have hpost := hentry ",".toList ⟨"ΑΣ".toList, ["İΣ".toList]⟩
  rw [htokens, hfilters] at hnormal
  cases hnormal with
  | cons _ hrest =>
      cases hrest with
      | cons hplain _ =>
          refine ⟨hterms, hwritable written ?_, hplain, rfl, ?_⟩
          · rw [hterms]
            exact List.mem_cons_self
          · rw [← htitle, ← hcategory]
            exact hpost

end Query

end ArchiveSearch
