import ArchiveSearch.Fragment.Codec
import ArchiveSearch.Proofs.Percent
import ArchiveSearch.Proofs.Utf8Faults

/-!
# What a fragment spells

A well-formed fragment is made of characters other than the percent sign and of escapes in digits of
either case, and so it spells some bytes (`Fragment.Spells`). A text is either well formed or has a
first percent sign that starts no escape (`Fragment.FirstMalformed`), for a digit is no percent sign
and so looking at every percent sign by itself is the same as reading escape after escape. The check
tells the two apart by bytes (`Fragment.checkFrom_of_firstMalformed`,
`Fragment.Spells.checkFrom_eq`), and no byte of another character looks like a digit or a percent
sign. Decoding is then decided by the spelled bytes alone (`Fragment.decode_of_spells`).
-/

namespace ArchiveSearch.Fragment

open Percent (IsDigit)

/-- The texts of characters other than the percent sign and of escapes in digits of either case, and
the bytes that they spell. -/
inductive Spells : Text → Bytes → Prop
  | nil : Spells [] []
  | plain {c : Char} {rest : Text} {bytes : Bytes} (hc : c ≠ '%') (tail : Spells rest bytes) :
      Spells (c :: rest) (Utf8.encodeChar c ++ bytes)
  | escape {high low : Char} {b : UInt8} {rest : Text} {bytes : Bytes}
      (hhigh : IsDigit high (b.toNat / 16)) (hlow : IsDigit low (b.toNat % 16))
      (tail : Spells rest bytes) :
      Spells ('%' :: high :: low :: rest) (b :: bytes)

/-- Texts that spell bytes spell them together. -/
theorem Spells.append {text other : Text} {bytes rest : Bytes} (h : Spells text bytes)
    (hother : Spells other rest) : Spells (text ++ other) (bytes ++ rest) := by
  induction h with
  | nil => exact hother
  | plain hc tail ih =>
      rw [List.append_assoc]
      exact .plain hc ih
  | escape hhigh hlow tail ih => exact .escape hhigh hlow ih

/-- Whether two digits stand at the front of a text. -/
def DigitsFollow (text : Text) : Prop :=
  ∃ high low rest m n, IsDigit high m ∧ IsDigit low n ∧ text = high :: low :: rest

/-- Between `before` and `after` stands the first percent sign that starts no escape. -/
structure FirstMalformed (before after : Text) : Prop where
  malformed : ¬ DigitsFollow after
  earlier : ∀ first second, before = first ++ '%' :: second →
    DigitsFollow (second ++ '%' :: after)

/-- The first malformed escape stays the first behind a character that starts no malformed one. -/
theorem FirstMalformed.cons {before after : Text} {c : Char} (h : FirstMalformed before after)
    (hc : c = '%' → DigitsFollow (before ++ '%' :: after)) :
    FirstMalformed (c :: before) after := by
  refine ⟨h.malformed, ?_⟩
  intro first second hbefore
  cases first with
  | nil =>
      cases hbefore
      exact hc rfl
  | cons d first =>
      cases hbefore
      exact h.earlier first second rfl

/-- The first malformed escape stays the first without the character in front. -/
theorem FirstMalformed.tail {before after : Text} {c : Char}
    (h : FirstMalformed (c :: before) after) : FirstMalformed before after := by
  refine ⟨h.malformed, ?_⟩
  intro first second hbefore
  exact h.earlier (c :: first) second (by rw [hbefore]; rfl)

/-- Every two digits make an escape. -/
theorem Spells.escape_of_isDigit {high low : Char} {m n : Nat} {rest : Text} {bytes : Bytes}
    (h : Spells rest bytes) (hhigh : IsDigit high m) (hlow : IsDigit low n) :
    Spells ('%' :: high :: low :: rest) (.ofNat (16 * m + n) :: bytes) := by
  have hm := hhigh.byte.2.2.1
  have hn := hlow.byte.2.2.1
  have hbyte : (UInt8.ofNat (16 * m + n)).toNat = 16 * m + n := Utf8.toNat_ofNat_byte (by omega)
  apply Spells.escape _ _ h
  · rw [hbyte, show (16 * m + n) / 16 = m by omega]
    exact hhigh
  · rw [hbyte, show (16 * m + n) % 16 = n by omega]
    exact hlow

/-- The digits of an escape are no percent signs, so it moves no fault behind it. -/
theorem FirstMalformed.escape {high low : Char} {m n : Nat} {before after : Text}
    (h : FirstMalformed before after) (hhigh : IsDigit high m) (hlow : IsDigit low n) :
    FirstMalformed ('%' :: high :: low :: before) after := by
  have hbehindLow := h.cons (c := low) (fun hpercent => absurd hpercent hlow.byte.2.1)
  have hbehindHigh := hbehindLow.cons (c := high) (fun hpercent => absurd hpercent hhigh.byte.2.1)
  exact hbehindHigh.cons (fun _ => ⟨high, low, _, m, n, hhigh, hlow, rfl⟩)

/-- A text is well formed, or some percent sign is the first that starts no escape. -/
theorem spells_or_firstMalformed (text : Text) :
    (∃ bytes, Spells text bytes) ∨
      ∃ before after, text = before ++ '%' :: after ∧ FirstMalformed before after := by
  induction hlength : text.length using Nat.strongRecOn generalizing text with
  | ind length ih =>
    cases text with
    | nil => exact .inl ⟨[], .nil⟩
    | cons c rest =>
        by_cases hc : c = '%'
        · rw [hc]
          by_cases hdigits : DigitsFollow rest
          · obtain ⟨high, low, rest', m, n, hhigh, hlow, rfl⟩ := hdigits
            have hshorter : rest'.length < length := by
              simp only [List.length_cons] at hlength
              omega
            rcases ih _ hshorter rest' rfl with ⟨bytes, hspells⟩ | ⟨before, after, rfl, hfirst⟩
            · exact .inl ⟨_, hspells.escape_of_isDigit hhigh hlow⟩
            · exact .inr ⟨'%' :: high :: low :: before, after, rfl, hfirst.escape hhigh hlow⟩
          · refine .inr ⟨[], rest, rfl, hdigits, ?_⟩
            intro first second hnil
            cases first <;> cases hnil
        · have hshorter : rest.length < length := by
            simp only [List.length_cons] at hlength
            omega
          rcases ih _ hshorter rest rfl with ⟨bytes, hspells⟩ | ⟨before, after, rfl, hfirst⟩
          · exact .inl ⟨_, .plain hc hspells⟩
          · exact .inr ⟨c :: before, after, rfl, hfirst.cons (fun hpercent => absurd hpercent hc)⟩

/-- Among the bytes below 0x80 only the percent sign has its byte. -/
theorem byte_ne_percent {c : Char} (hc : c.toNat < 0x80) (hne : c ≠ '%') :
    UInt8.ofNat c.toNat ≠ 0x25 := by
  intro h
  have hnat := congrArg UInt8.toNat h
  rw [Utf8.toNat_ofNat_byte (by omega)] at hnat
  exact hne (Char.ext (UInt32.toNat_inj.mp hnat))

/-- No byte of another character is a percent sign. -/
theorem percent_not_mem_encodeChar {c : Char} (hc : c ≠ '%') : 0x25 ∉ Utf8.encodeChar c := by
  intro hmem
  by_cases hascii : c.toNat < 0x80
  · rw [Utf8.encodeChar_of_lt hascii, List.mem_singleton] at hmem
    exact byte_ne_percent hascii hc hmem.symm
  · have hge := Utf8.le_of_mem_encodeChar (by omega) hmem
    exact absurd hge (by decide)

/-- A byte at the front of a text that has a value is a digit of the text. -/
theorem exists_isDigit_of_hexValue? {text : Text} {b : UInt8} {rest : Bytes} {n : Nat}
    (hbytes : Utf8.encode text = b :: rest) (hvalue : Percent.hexValue? b = some n) :
    ∃ c tail, text = c :: tail ∧ IsDigit c n ∧ Utf8.encode tail = rest := by
  obtain ⟨hlt, hdigit⟩ := Percent.isDigit_of_hexValue? hvalue
  cases text with
  | nil => cases hbytes
  | cons c tail =>
      rw [Utf8.encode_cons] at hbytes
      by_cases hascii : c.toNat < 0x80
      · rw [Utf8.encodeChar_of_lt hascii] at hbytes
        cases hbytes
        rw [Utf8.toNat_ofNat_byte (by omega), Char.ofNat_toNat] at hdigit
        exact ⟨c, tail, rfl, hdigit, rfl⟩
      · have hmem : b ∈ Utf8.encodeChar c := by
          obtain ⟨first, others, hchar, -⟩ := Utf8.front_encodeChar c []
          rw [hchar] at hbytes ⊢
          cases hbytes
          exact List.mem_cons_self
        have hge := Utf8.le_of_mem_encodeChar (by omega) hmem
        omega

theorem encode_digits {high low : Char} {m n : Nat} (hhigh : IsDigit high m) (hlow : IsDigit low n)
    (rest : Text) :
    Utf8.encode (high :: low :: rest) =
      .ofNat high.toNat :: .ofNat low.toNat :: Utf8.encode rest := by
  rw [Utf8.encode_cons, Utf8.encode_cons, Utf8.encodeChar_of_lt hhigh.byte.1,
    Utf8.encodeChar_of_lt hlow.byte.1]
  rfl

/-- Two bytes are digits exactly when two characters are. -/
theorem startsWithDigits_encode_iff (text : Text) :
    startsWithDigits (Utf8.encode text) = true ↔ DigitsFollow text := by
  constructor
  · intro h
    cases hbytes : Utf8.encode text with
    | nil =>
        rw [hbytes] at h
        cases h
    | cons b bytes =>
        cases bytes with
        | nil =>
            rw [hbytes] at h
            cases h
        | cons b' bytes =>
            rw [hbytes, startsWithDigits, Bool.and_eq_true] at h
            obtain ⟨m, hm⟩ := Option.isSome_iff_exists.mp h.1
            obtain ⟨n, hn⟩ := Option.isSome_iff_exists.mp h.2
            obtain ⟨high, tail, rfl, hhigh, htail⟩ := exists_isDigit_of_hexValue? hbytes hm
            obtain ⟨low, rest, rfl, hlow, -⟩ := exists_isDigit_of_hexValue? htail hn
            exact ⟨high, low, rest, m, n, hhigh, hlow, rfl⟩
  · rintro ⟨high, low, rest, m, n, hhigh, hlow, rfl⟩
    rw [encode_digits hhigh hlow, startsWithDigits, hhigh.byte.2.2.2, hlow.byte.2.2.2]
    rfl

/-- The check passes over bytes that hold no percent sign. -/
theorem checkFrom_append_of_not_mem {bytes : Bytes} (h : 0x25 ∉ bytes) (position : Nat)
    (rest : Bytes) :
    checkFrom position (bytes ++ rest) = checkFrom (position + bytes.length) rest := by
  induction bytes generalizing position with
  | nil => rfl
  | cons b bytes ih =>
      have hne : b ≠ 0x25 := fun hb => h (hb ▸ List.mem_cons_self)
      rw [List.cons_append, checkFrom_cons_of_ne hne, ih (fun hb => h (List.mem_cons_of_mem b hb)),
        List.length_cons, Nat.add_assoc, Nat.add_comm 1]

/-- **Where the check stops.** It reports the byte at which the first percent sign stands that
starts no escape. -/
theorem checkFrom_of_firstMalformed {before after : Text} (h : FirstMalformed before after)
    (position : Nat) :
    checkFrom position (Utf8.encode (before ++ '%' :: after)) =
      .error (.malformedEscape (position + (Utf8.encode before).length)) := by
  induction before generalizing position with
  | nil =>
      have hdigits : startsWithDigits (Utf8.encode after) = false := by
        rw [Bool.eq_false_iff]
        exact fun htrue => h.malformed ((startsWithDigits_encode_iff after).mp htrue)
      change checkFrom position (0x25 :: Utf8.encode after) = _
      rw [checkFrom, if_pos ⟨rfl, hdigits⟩]
      rfl
  | cons c before ih =>
      have hstep : checkFrom position (Utf8.encode (c :: (before ++ '%' :: after))) =
          checkFrom (position + (Utf8.encodeChar c).length)
            (Utf8.encode (before ++ '%' :: after)) := by
        by_cases hc : c = '%'
        · have hdigits :=
            (startsWithDigits_encode_iff _).mpr (h.earlier [] before (by rw [hc]; rfl))
          rw [hc]
          exact checkFrom_percent hdigits position
        · rw [Utf8.encode_cons]
          exact checkFrom_append_of_not_mem (percent_not_mem_encodeChar hc) position _
      rw [List.cons_append, hstep, ih h.tail, Utf8.encode_cons, List.length_append, Nat.add_assoc]

/-- The check passes over a well-formed text. -/
theorem Spells.checkFrom_eq {text : Text} {bytes : Bytes} (h : Spells text bytes)
    (position : Nat) : checkFrom position (Utf8.encode text) = .ok () := by
  induction h generalizing position with
  | nil => rfl
  | plain hc tail ih =>
      rw [Utf8.encode_cons, checkFrom_append_of_not_mem (percent_not_mem_encodeChar hc)]
      exact ih _
  | @escape high low b rest bytes hhigh hlow tail ih =>
      have hdigits := (startsWithDigits_encode_iff (high :: low :: rest)).mpr
        ⟨high, low, rest, _, _, hhigh, hlow, rfl⟩
      rw [Utf8.encode_cons]
      change checkFrom position (0x25 :: Utf8.encode (high :: low :: rest)) = _
      -- the check goes on at the digits themselves
      rw [checkFrom_percent hdigits, Utf8.encode_cons, Utf8.encode_cons,
        checkFrom_append_of_not_mem (percent_not_mem_encodeChar hhigh.byte.2.1),
        checkFrom_append_of_not_mem (percent_not_mem_encodeChar hlow.byte.2.1)]
      exact ih _

/-- Replacing the escapes of a well-formed text gives the bytes that it spells. -/
theorem Spells.unescape_eq {text : Text} {bytes : Bytes} (h : Spells text bytes) :
    Percent.unescape (Utf8.encode text) = bytes := by
  induction h with
  | nil => rfl
  | plain hc tail ih =>
      rw [Utf8.encode_cons, Percent.unescape_append_of_not_mem (percent_not_mem_encodeChar hc), ih]
  | @escape high low b rest bytes hhigh hlow tail ih =>
      rw [Utf8.encode_cons, encode_digits hhigh hlow]
      change
        Percent.unescape (0x25 :: .ofNat high.toNat :: .ofNat low.toNat :: Utf8.encode rest) = _
      rw [Percent.unescape, Percent.escapedByte?_of_isDigit hhigh hlow, ih]

/-- Of a well-formed fragment the spelled bytes alone decide what is read. -/
theorem decode_of_spells {fragment : Text} {bytes : Bytes}
    (h : Spells (withoutMark fragment) bytes) :
    decode fragment = (Utf8.decode bytes).mapError .invalidUtf8 := by
  unfold decode checkEscapes
  simp only [h.checkFrom_eq]
  rw [Percent.decode, h.unescape_eq]

/-- A fragment that is not well formed is refused, whatever its other escapes spell. -/
theorem decode_of_firstMalformed {fragment before after : Text}
    (htext : withoutMark fragment = before ++ '%' :: after) (h : FirstMalformed before after) :
    decode fragment = .error (.malformedEscape (Utf8.encode before).length) := by
  unfold decode checkEscapes
  simp only [htext, checkFrom_of_firstMalformed h, Nat.zero_add]

/-- A fragment is read as a query exactly if it spells the bytes of that query. -/
theorem decode_eq_ok_iff {fragment query : Text} :
    decode fragment = .ok query ↔ Spells (withoutMark fragment) (Utf8.encode query) := by
  constructor
  · intro h
    rcases spells_or_firstMalformed (withoutMark fragment) with
      ⟨bytes, hspells⟩ | ⟨before, after, htext, hfirst⟩
    · rw [decode_of_spells hspells] at h
      cases hread : Utf8.decode bytes with
      | error fault =>
          rw [hread] at h
          cases h
      | ok other =>
          rw [hread] at h
          cases h
          rw [Utf8.decode_eq_ok_iff.mp hread]
          exact hspells
    · rw [decode_of_firstMalformed htext hfirst] at h
      cases h
  · intro h
    rw [decode_of_spells h, Utf8.decode_encode]
    rfl

theorem decode_eq_ok_of_toOption {fragment query : Text}
    (h : (decode fragment).toOption = some query) : decode fragment = .ok query := by
  cases hread : decode fragment with
  | error e =>
      rw [hread] at h
      cases h
  | ok other =>
      rw [hread] at h
      rw [Option.some.inj h]

/-- **What a fragment is read as.** It is read as a query exactly if it spells the bytes of that
query. A fragment that is not well formed is refused at its first percent sign that starts no
escape, whatever the other escapes spell. A well-formed one spells one sequence of bytes, and if
that is no text, the fragment is refused with the number of bytes in the longest text that they
start with. Positions in the fragment are counted in bytes, after the number sign at its front if it
has one. -/
theorem decode_classifies_fragments (fragment : Text) :
    let text := withoutMark fragment
    (∀ query, decode fragment = .ok query ↔ Spells text (Utf8.encode query)) ∧
      ((∀ bytes, ¬ Spells text bytes) →
        ∃ before after, text = before ++ '%' :: after ∧ FirstMalformed before after ∧
          decode fragment = .error (.malformedEscape (Utf8.encode before).length)) ∧
      ∀ bytes, Spells text bytes →
        (∀ other, Spells text other → other = bytes) ∧
          ((∀ query, Utf8.encode query ≠ bytes) →
            ∃ good length?, Utf8.LongestText good bytes ∧
              decode fragment =
                .error (.invalidUtf8 ⟨(Utf8.encode good).length, length?⟩)) := by
  intro text
  refine ⟨?_, ?_, ?_⟩
  · intro query
    exact decode_eq_ok_iff
  · intro hmalformed
    rcases spells_or_firstMalformed text with ⟨bytes, hspells⟩ | ⟨before, after, htext, hfirst⟩
    · exact absurd hspells (hmalformed bytes)
    · exact ⟨before, after, htext, hfirst, decode_of_firstMalformed htext hfirst⟩
  · intro bytes hspells
    refine ⟨?_, ?_⟩
    · intro other hother
      exact hother.unescape_eq.symm.trans hspells.unescape_eq
    · intro hnone
      cases hread : Utf8.decode bytes with
      | ok query => exact absurd (Utf8.decode_eq_ok_iff.mp hread) (hnone query)
      | error fault =>
          obtain ⟨good, hgood, hposition⟩ := Utf8.exists_longestText_of_decode_error hread
          refine ⟨good, fault.length?, hgood, ?_⟩
          rw [decode_of_spells hspells, hread, ← hposition]
          rfl

/-- The first escape of `%E9%2` spells no text, but the second is broken and that is what counts;
in `é%C3%28` both are whole, and the fault lies behind the two bytes of the first character. -/
theorem decode_classifies_broken_fragments :
    (∀ bytes, ¬ Spells "%E9%2".toList bytes) ∧
      (∃ before after, "%E9%2".toList = before ++ '%' :: after ∧ FirstMalformed before after ∧
        decode "#%E9%2".toList = .error (.malformedEscape (Utf8.encode before).length)) ∧
      Spells "é%C3%28".toList [0xC3, 0xA9, 0xC3, 0x28] ∧
      (∀ query, Utf8.encode query ≠ [0xC3, 0xA9, 0xC3, 0x28]) ∧
      ∃ good length?, Utf8.LongestText good [0xC3, 0xA9, 0xC3, 0x28] ∧
        decode "é%C3%28".toList =
          .error (.invalidUtf8 ⟨(Utf8.encode good).length, length?⟩) := by
  have hmalformed : ∀ bytes, ¬ Spells "%E9%2".toList bytes := by
    intro bytes h
    change Spells ['%', 'E', '9', '%', '2'] bytes at h
    cases h with
    | plain hc _ => exact hc rfl
    | escape _ _ tail =>
        cases tail with
        | plain hc _ => exact hc rfl
  have hspells : Spells "é%C3%28".toList [0xC3, 0xA9, 0xC3, 0x28] :=
    .plain (by decide) (.escape (by decide) (by decide) (.escape (by decide) (by decide) .nil))
  have hnone : ∀ query, Utf8.encode query ≠ [0xC3, 0xA9, 0xC3, 0x28] := by
    intro query h
    have hread : Utf8.decode [0xC3, 0xA9, 0xC3, 0x28] = .error ⟨2, some 1⟩ := by
      with_unfolding_all rfl
    rw [Utf8.decode_eq_ok_iff.mpr h] at hread
    cases hread
  exact ⟨hmalformed, (decode_classifies_fragments "#%E9%2".toList).2.1 hmalformed, hspells, hnone,
    ((decode_classifies_fragments "é%C3%28".toList).2.2 _ hspells).2 hnone⟩

end ArchiveSearch.Fragment
