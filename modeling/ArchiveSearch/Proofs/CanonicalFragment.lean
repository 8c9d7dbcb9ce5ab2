import ArchiveSearch.Proofs.FragmentRoundTrip
import ArchiveSearch.Proofs.Submission
import Mathlib.Data.List.Basic

/-!
# Canonical fragments

Many fragments are read as one query: digits of either case, letters that are escaped without need,
raw characters and a number sign in front all read alike. A fragment is canonical if it escapes in
upper-case digits what is reserved, and nothing else (`Fragment.Canonical`). Encoding goes character
by character, but what it writes depends on the bytes alone (`Fragment.encode_eq_bytes`), and a
canonical fragment is what some bytes are written as (`Fragment.Canonical.exists_bytes`). Since a
well-formed fragment spells one sequence of bytes, of all fragments with one reading the written one
is canonical and no other (`Fragment.canonical_iff_of_decode`).
-/

namespace ArchiveSearch.Fragment

open Percent (IsUpperDigit)

/-- Whether a byte stands for itself in a fragment, as an unreserved character. -/
def isUnreservedByte (b : UInt8) : Bool :=
  isUnreserved (.ofNat b.toNat)

/-- The texts of unreserved characters, and of escapes in upper-case digits of bytes that are no
unreserved characters. -/
inductive Canonical : Text → Prop
  | nil : Canonical []
  | unreserved {c : Char} {rest : Text} (hc : isUnreserved c = true) (tail : Canonical rest) :
      Canonical (c :: rest)
  | escape {high low : Char} {b : UInt8} {rest : Text} (hb : isUnreservedByte b = false)
      (hhigh : IsUpperDigit high (b.toNat / 16)) (hlow : IsUpperDigit low (b.toNat % 16))
      (tail : Canonical rest) : Canonical ('%' :: high :: low :: rest)

/-- A byte as it stands in a fragment. -/
def encodeByte (b : UInt8) : Text :=
  if isUnreservedByte b then [.ofNat b.toNat] else Percent.escapeByte b

/-- Some bytes as they stand in a fragment. -/
def encodeBytes (bytes : Bytes) : Text :=
  bytes.flatMap encodeByte

theorem encodeBytes_cons (b : UInt8) (bytes : Bytes) :
    encodeBytes (b :: bytes) = encodeByte b ++ encodeBytes bytes :=
  List.flatMap_cons

/-- Bytes are written the same way whatever follows them. -/
theorem encodeBytes_append (bytes others : Bytes) :
    encodeBytes (bytes ++ others) = encodeBytes bytes ++ encodeBytes others :=
  List.flatMap_append

/-- A character is unreserved exactly if any of its bytes is. -/
theorem isUnreservedByte_of_mem {c : Char} {b : UInt8} (h : b ∈ Utf8.encodeChar c) :
    isUnreservedByte b = isUnreserved c := by
  by_cases hascii : c.toNat < 0x80
  · rw [Utf8.encodeChar_of_lt hascii, List.mem_singleton] at h
    rw [h, isUnreservedByte, Utf8.toNat_ofNat_byte (by omega), Char.ofNat_toNat]
  · have hbyte : 0x80 ≤ b.toNat := Utf8.le_of_mem_encodeChar (by omega) h
    have hreserved : isUnreserved c = false := by
      rw [Bool.eq_false_iff]
      exact fun hc => hascii (isUnreserved_ascii hc).1
    rw [hreserved, Bool.eq_false_iff]
    intro hb
    have hlt := (isUnreserved_ascii hb).1
    rw [Percent.toNat_charOfByte] at hlt
    omega

theorem encodeByte_of_reserved {b : UInt8} (hb : isUnreservedByte b = false) :
    encodeByte b = Percent.escapeByte b := by
  rw [encodeByte, if_neg (by simp [hb])]

/-- An unreserved character has one byte, which is kept. -/
theorem encodeBytes_of_unreserved {c : Char} (hc : isUnreserved c = true) :
    encodeBytes (Utf8.encodeChar c) = [c] := by
  have hascii := (isUnreserved_ascii hc).1
  have hbytes : Utf8.encodeChar c = [.ofNat c.toNat] := Utf8.encodeChar_of_lt hascii
  have hb : isUnreservedByte (.ofNat c.toNat) = true := by
    rw [isUnreservedByte_of_mem (hbytes ▸ List.mem_singleton_self _), hc]
  rw [hbytes, encodeBytes, List.flatMap_singleton, encodeByte, if_pos hb,
    Utf8.toNat_ofNat_byte (by omega), Char.ofNat_toNat]

/-- Percent-encoding leaves only unreserved bytes alone, so it escapes a reserved one too. -/
theorem percentEncodeByte_of_reserved {b : UInt8} (hb : isUnreservedByte b = false) :
    Percent.encodeByte b = Percent.escapeByte b := by
  have hescaped : ¬ Percent.isKept b = true := by
    intro hkept
    have hunreserved : isUnreservedByte b = true := isUnreserved_of_isKept hkept
    rw [hb] at hunreserved
    cases hunreserved
  rw [Percent.encodeByte, if_neg hescaped]

/-- What is written for a character depends on its bytes alone. -/
theorem encodeChar_eq_bytes (c : Char) : encodeChar c = encodeBytes (Utf8.encodeChar c) := by
  rw [encodeChar]
  split
  next h => rw [encodeBytes_of_unreserved h]
  next h =>
    rw [Percent.encode, Utf8.encode_cons, Utf8.encode_nil, List.append_nil, encodeBytes]
    apply List.flatMap_congr
    intro b hb
    have hreserved : isUnreservedByte b = false := by
      rw [isUnreservedByte_of_mem hb]
      exact Bool.eq_false_iff.mpr h
    rw [encodeByte_of_reserved hreserved, percentEncodeByte_of_reserved hreserved]

/-- What is written for a query depends on its bytes alone. -/
theorem encode_eq_bytes (query : Text) : encode query = encodeBytes (Utf8.encode query) := by
  rw [encode, encodeBytes, Utf8.encode, List.flatMap_assoc]
  apply List.flatMap_congr
  intro c _
  exact encodeChar_eq_bytes c

/-- Whatever bytes are written, the text is canonical. -/
theorem canonical_encodeBytes (bytes : Bytes) : Canonical (encodeBytes bytes) := by
  induction bytes with
  | nil => exact .nil
  | cons b bytes ih =>
      have hb : b.toNat < 256 := b.toNat_lt
      rw [encodeBytes_cons, encodeByte]
      split
      next h => exact .unreserved h ih
      next h =>
        exact .escape (Bool.eq_false_iff.mpr h) ((Percent.isUpperDigit_iff (by omega)).mpr rfl)
          ((Percent.isUpperDigit_iff (by omega)).mpr rfl) ih

/-- A canonical fragment is what some bytes are written as, and spells them. -/
theorem Canonical.exists_bytes {text : Text} (h : Canonical text) :
    ∃ bytes, text = encodeBytes bytes ∧ Spells text bytes := by
  induction h with
  | nil => exact ⟨[], rfl, .nil⟩
  | @unreserved c rest hc tail ih =>
      obtain ⟨bytes, hbytes, hspells⟩ := ih
      refine ⟨Utf8.encodeChar c ++ bytes, ?_, .plain (isUnreserved_ascii hc).2.1 hspells⟩
      rw [encodeBytes_append, encodeBytes_of_unreserved hc, ← hbytes]
      rfl
  | @escape high low b rest hb hhigh hlow tail ih =>
      obtain ⟨bytes, hbytes, hspells⟩ := ih
      have hlt : b.toNat < 256 := b.toNat_lt
      have hdigits : ['%', high, low] = Percent.escapeByte b := by
        rw [(Percent.isUpperDigit_iff (by omega)).mp hhigh,
          (Percent.isUpperDigit_iff (by omega)).mp hlow]
        rfl
      refine ⟨b :: bytes, ?_, .escape hhigh.isDigit hlow.isDigit hspells⟩
      rw [encodeBytes_cons, encodeByte_of_reserved hb, ← hbytes, ← hdigits]
      rfl

/-- The fragment of a query is canonical. -/
theorem canonical_encode (query : Text) : Canonical (encode query) := by
  rw [encode_eq_bytes]
  exact canonical_encodeBytes _

/-- A canonical text is a written one. -/
theorem Canonical.written {text : Text} (h : Canonical text) : Written text := by
  induction h with
  | nil => exact .nil
  | unreserved hc tail ih => exact .unreserved hc ih
  | escape hb hhigh hlow tail ih =>
      exact .escape (List.fst_mem_of_mem_zipIdx hhigh) (List.fst_mem_of_mem_zipIdx hlow) ih

theorem Canonical.withoutMark_eq {text : Text} (h : Canonical text) : withoutMark text = text :=
  withoutMark_of_head?_ne h.written.head?_ne

/-- Of the fragments that are read as a query, the written one is canonical and no other. -/
theorem canonical_iff_of_decode {fragment query : Text} (h : decode fragment = .ok query) :
    Canonical fragment ↔ encode query = fragment := by
  constructor
  · intro hcanonical
    obtain ⟨bytes, hbytes, hspells⟩ := hcanonical.exists_bytes
    have hquery : Spells fragment (Utf8.encode query) := by
      rw [← hcanonical.withoutMark_eq]
      exact decode_eq_ok_iff.mp h
    have hsame : Utf8.encode query = bytes := hquery.unescape_eq.symm.trans hspells.unescape_eq
    rw [encode_eq_bytes, hsame, hbytes]
  · rintro rfl
    exact canonical_encode query

/-- **Canonical fragments.** A fragment that is read as a query is what is written for that query
exactly if it is canonical: made of unreserved characters, and of escapes in upper-case digits of
bytes that are none. So of all fragments that are read as one query exactly one is canonical, and
it is the one that submitting the query stores, on any page. -/
theorem encode_decode_iff_canonical :
    (∀ fragment query, decode fragment = .ok query →
      (encode query = fragment ↔ Canonical fragment)) ∧
      (∀ query, ∃! fragment, decode fragment = .ok query ∧ Canonical fragment) ∧
      ∀ (page : Page) (fragment : Text), decode fragment = .ok page.searchText →
        (Canonical fragment ↔ fragment = page.submit.page.fragment) := by
  refine ⟨?_, ?_, ?_⟩
  · intro fragment query h
    exact (canonical_iff_of_decode h).symm
  · intro query
    refine ⟨encode query, ⟨decode_encode query, canonical_encode query⟩, ?_⟩
    rintro fragment ⟨hdecode, hcanonical⟩
    exact ((canonical_iff_of_decode hdecode).mp hcanonical).symm
  · intro page fragment h
    rw [canonical_iff_of_decode h, page.submit_fragment, eq_comm]

/-- The query `it's é%` has one canonical fragment. The others that are read as it escape the
apostrophe, have a digit in lower case, leave the letter raw, or start with a number sign. -/
theorem encode_decode_iff_canonical_of_accents :
    let query := "it's é%".toList
    let written := "it's%20%C3%A9%25".toList
    let others := ["it%27s%20%C3%A9%25".toList, "it's%20%c3%A9%25".toList,
      "it's%20é%25".toList, "#it's%20%C3%A9%25".toList]
    let page : Page := { searchText := query, fragment := "%".toList }
    (∀ other ∈ others, decode other = .ok query ∧ ¬ Canonical other) ∧
      decode written = .ok query ∧ Canonical written ∧
      page.submit.page.fragment = written := by
  intro query written others page
  obtain ⟨hiff, -, hsubmit⟩ := encode_decode_iff_canonical
  have hwritten : encode query = written := by decide +kernel
  have hdecode : decode written = .ok query := decode_eq_ok_of_toOption (by decide +kernel)
  have hcanonical : Canonical written := (hiff written query hdecode).mp hwritten
  have hread : ∀ other ∈ others, (decode other).toOption = some query := by decide +kernel
  refine ⟨?_, hdecode, hcanonical, ((hsubmit page written hdecode).mp hcanonical).symm⟩
  intro other hother
  have hsame := decode_eq_ok_of_toOption (hread other hother)
  refine ⟨hsame, ?_⟩
  rw [← hiff other query hsame, hwritten]
  rintro rfl
  revert hother
  decide

end ArchiveSearch.Fragment
