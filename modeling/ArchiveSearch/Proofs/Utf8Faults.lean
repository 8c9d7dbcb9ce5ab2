import ArchiveSearch.Proofs.Utf8

/-!
# Where bytes stop being UTF-8

Reading is exact: a character that stands at the front of some bytes is spelled there
(`Utf8.eq_append_of_front`), so bytes that read as a text are the bytes of that text
(`Utf8.decode_eq_ok_iff`). When reading fails, the bytes before the fault are those of the longest
text that all the bytes start with (`Utf8.exists_longestText_of_decode_error`). The second fact
rests on the first and on `Utf8.front_encodeChar`: bytes have at most one character at their front.
-/

namespace ArchiveSearch.Utf8

/-- The bytes of a character whose value has from eight to eleven bits. -/
theorem encodeChar_ofNat_two {n : Nat} (hlow : 0x80 ≤ n) (hhigh : n < 0x800) :
    encodeChar (.ofNat n) = [.ofNat (0xC0 + n / 0x40), .ofNat (0x80 + n % 0x40)] := by
  have hn : (Char.ofNat n).toNat = n := toNat_ofNat_char (by omega)
  rw [encodeChar, hn, if_neg (by omega), if_pos hhigh]

/-- The bytes of a character whose value has from twelve to sixteen bits. -/
theorem encodeChar_ofNat_three {n : Nat} (hlow : 0x800 ≤ n) (hhigh : n < 0x10000)
    (hscalar : n < 0xD800 ∨ 0xDFFF < n) :
    encodeChar (.ofNat n) =
      [.ofNat (0xE0 + n / 0x1000), .ofNat (0x80 + n / 0x40 % 0x40), .ofNat (0x80 + n % 0x40)] := by
  have hn : (Char.ofNat n).toNat = n := toNat_ofNat_char (by omega)
  rw [encodeChar, hn, if_neg (by omega), if_neg (by omega), if_pos hhigh]

/-- The bytes of a character whose value has more than sixteen bits. -/
theorem encodeChar_ofNat_four {n : Nat} (hlow : 0x10000 ≤ n) (hhigh : n < 0x110000) :
    encodeChar (.ofNat n) =
      [.ofNat (0xF0 + n / 0x40000), .ofNat (0x80 + n / 0x1000 % 0x40),
        .ofNat (0x80 + n / 0x40 % 0x40), .ofNat (0x80 + n % 0x40)] := by
  have hn : (Char.ofNat n).toNat = n := toNat_ofNat_char (by omega)
  rw [encodeChar, hn, if_neg (by omega), if_neg (by omega), if_neg (by omega)]

/-- A byte that a sequence owes lies between the bounds and adds six bits to the value. -/
theorem exists_tail_of_readTails {share taken owed : Nat} {low high : UInt8} {bytes rest : Bytes}
    {c : Char} (hlow : 0x80 ≤ low.toNat) (hhigh : high.toNat ≤ 0xBF)
    (h : readTails share taken low high (owed + 1) bytes = .char c rest) :
    ∃ n tail, bytes = .ofNat (0x80 + n) :: tail ∧ n < 0x40 ∧ low.toNat ≤ 0x80 + n ∧
      0x80 + n ≤ high.toNat ∧
      readTails (share * 0x40 + n) (taken + 1) 0x80 0xBF owed tail = .char c rest := by
  cases bytes with
  | nil => cases h
  | cons b tail =>
      rw [readTails] at h
      split at h
      · rename_i hbounds
        simp only [UInt8.le_iff_toNat_le] at hbounds
        refine ⟨b.toNat - 0x80, tail, ?_, by omega, by omega, by omega, h⟩
        rw [show 0x80 + (b.toNat - 0x80) = b.toNat by omega, UInt8.ofNat_toNat]
      · cases h

/-- The bounds of all bytes after the second. -/
theorem exists_tail_of_readTails_tail {share taken owed : Nat} {bytes rest : Bytes} {c : Char}
    (h : readTails share taken 0x80 0xBF (owed + 1) bytes = .char c rest) :
    ∃ n tail, bytes = .ofNat (0x80 + n) :: tail ∧ n < 0x40 ∧
      readTails (share * 0x40 + n) (taken + 1) 0x80 0xBF owed tail = .char c rest := by
  obtain ⟨n, tail, hbytes, hn, -, -, hread⟩ :=
    exists_tail_of_readTails (by decide) (by decide) h
  exact ⟨n, tail, hbytes, hn, hread⟩

/-- Two bytes that are read as a character are the bytes of that character. -/
theorem eq_append_of_two {first : UInt8} {share : Nat} {bytes rest : Bytes} {c : Char}
    (hfirst : first.toNat = 0xC0 + share) (hmin : 2 ≤ share) (hmax : share < 0x20)
    (h : readTails share 1 0x80 0xBF 1 bytes = .char c rest) :
    first :: bytes = encodeChar c ++ rest := by
  obtain ⟨n, tail, rfl, hn, hread⟩ := exists_tail_of_readTails_tail h
  cases hread
  have hbyte : first = .ofNat (0xC0 + share) := by rw [← hfirst, UInt8.ofNat_toNat]
  rw [encodeChar_ofNat_two (by omega) (by omega), show (share * 0x40 + n) / 0x40 = share by omega,
    show (share * 0x40 + n) % 0x40 = n by omega, hbyte]
  rfl

/-- The bounds of the second byte keep out the long spellings and the surrogates. -/
theorem eq_append_of_three {first low high : UInt8} {share : Nat} {bytes rest : Bytes} {c : Char}
    (hfirst : first.toNat = 0xE0 + share) (hmax : share < 0x10)
    (hbounds : 0x80 ≤ low.toNat ∧ high.toNat ≤ 0xBF) (hlong : 0 < share ∨ 0xA0 ≤ low.toNat)
    (hscalar : share ≠ 0xD ∨ high.toNat ≤ 0x9F)
    (h : readTails share 1 low high 2 bytes = .char c rest) :
    first :: bytes = encodeChar c ++ rest := by
  obtain ⟨n, tail, rfl, hn, hge, hle, hread⟩ := exists_tail_of_readTails hbounds.1 hbounds.2 h
  obtain ⟨m, tail', rfl, hm, hread'⟩ := exists_tail_of_readTails_tail hread
  cases hread'
  have hbyte : first = .ofNat (0xE0 + share) := by rw [← hfirst, UInt8.ofNat_toNat]
  rw [encodeChar_ofNat_three (by omega) (by omega) (by omega),
    show ((share * 0x40 + n) * 0x40 + m) / 0x1000 = share by omega,
    show ((share * 0x40 + n) * 0x40 + m) / 0x40 % 0x40 = n by omega,
    show ((share * 0x40 + n) * 0x40 + m) % 0x40 = m by omega, hbyte]
  rfl

/-- The bounds of the second byte keep out the long spellings and what lies above the last scalar
value. -/
theorem eq_append_of_four {first low high : UInt8} {share : Nat} {bytes rest : Bytes} {c : Char}
    (hfirst : first.toNat = 0xF0 + share) (hmax : share ≤ 4)
    (hbounds : 0x80 ≤ low.toNat ∧ high.toNat ≤ 0xBF) (hlong : 0 < share ∨ 0x90 ≤ low.toNat)
    (hscalar : share ≠ 4 ∨ high.toNat ≤ 0x8F)
    (h : readTails share 1 low high 3 bytes = .char c rest) :
    first :: bytes = encodeChar c ++ rest := by
  obtain ⟨n, tail, rfl, hn, hge, hle, hread⟩ := exists_tail_of_readTails hbounds.1 hbounds.2 h
  obtain ⟨m, tail', rfl, hm, hread'⟩ := exists_tail_of_readTails_tail hread
  obtain ⟨k, tail'', rfl, hk, hread''⟩ := exists_tail_of_readTails_tail hread'
  cases hread''
  have hbyte : first = .ofNat (0xF0 + share) := by rw [← hfirst, UInt8.ofNat_toNat]
  rw [encodeChar_ofNat_four (by omega) (by omega),
    show (((share * 0x40 + n) * 0x40 + m) * 0x40 + k) / 0x40000 = share by omega,
    show (((share * 0x40 + n) * 0x40 + m) * 0x40 + k) / 0x1000 % 0x40 = n by omega,
    show (((share * 0x40 + n) * 0x40 + m) * 0x40 + k) / 0x40 % 0x40 = m by omega,
    show (((share * 0x40 + n) * 0x40 + m) * 0x40 + k) % 0x40 = k by omega, hbyte]
  rfl

/-- A sequence of several bytes spells the character that is read from it, whatever its first
byte. -/
theorem eq_append_of_shape? {first : UInt8} {shape : Shape} {bytes rest : Bytes} {c : Char}
    (hshape : shape? first = some shape)
    (h : readTails shape.share 1 shape.low shape.high shape.tails bytes = .char c rest) :
    first :: bytes = encodeChar c ++ rest := by
  have hbyte : first.toNat < 256 := first.toNat_lt
  -- one case for each row of the table of first bytes
  rw [shape?] at hshape
  split at hshape
  · cases hshape
  split at hshape
  · obtain rfl := Option.some.inj hshape
    dsimp only at h
    exact eq_append_of_two (by omega) (by omega) (by omega) h
  split at hshape
  · obtain rfl := Option.some.inj hshape
    dsimp only at h
    exact eq_append_of_three (by omega) (by omega) (by decide) (.inr (by decide))
      (.inl (by omega)) h
  split at hshape
  · obtain rfl := Option.some.inj hshape
    dsimp only at h
    exact eq_append_of_three (by omega) (by omega) (by decide) (.inl (by omega))
      (.inr (by decide)) h
  split at hshape
  · obtain rfl := Option.some.inj hshape
    dsimp only at h
    exact eq_append_of_three (by omega) (by omega) (by decide) (.inl (by omega)) (.inl (by omega)) h
  split at hshape
  · obtain rfl := Option.some.inj hshape
    dsimp only at h
    exact eq_append_of_four (by omega) (by omega) (by decide) (.inr (by decide)) (.inl (by omega)) h
  split at hshape
  · obtain rfl := Option.some.inj hshape
    dsimp only at h
    exact eq_append_of_four (by omega) (by omega) (by decide) (.inl (by omega)) (.inl (by omega)) h
  split at hshape
  · obtain rfl := Option.some.inj hshape
    dsimp only at h
    exact eq_append_of_four (by omega) (by omega) (by decide) (.inl (by omega)) (.inr (by decide)) h
  · cases hshape

/-- A character that stands at the front of some bytes is spelled there. -/
theorem eq_append_of_front {first : UInt8} {bytes rest : Bytes} {c : Char}
    (h : front first bytes = .char c rest) : first :: bytes = encodeChar c ++ rest := by
  rw [front] at h
  split at h
  · rename_i hascii
    have hlt : first.toNat < 0x80 := hascii
    cases h
    have hfirst : (Char.ofNat first.toNat).toNat = first.toNat := toNat_ofNat_char (by omega)
    rw [encodeChar_of_lt (by omega), hfirst, UInt8.ofNat_toNat]
    rfl
  · split at h
    · cases h
    · rename_i shape hshape
      exact eq_append_of_shape? hshape h

/-- At the front of the bytes of a character stands that character and no other. -/
theorem front_of_append {first : UInt8} {bytes rest : Bytes} {c : Char}
    (h : encodeChar c ++ rest = first :: bytes) : front first bytes = .char c rest := by
  obtain ⟨other, tail, hbytes, hfront⟩ := front_encodeChar c rest
  rw [hbytes] at h
  cases h
  exact hfront

/-- The bytes of a character tell which it is and where they end. -/
theorem encodeChar_append_inj {c d : Char} {bytes rest : Bytes}
    (h : encodeChar c ++ bytes = encodeChar d ++ rest) : c = d ∧ bytes = rest := by
  obtain ⟨first, tail, hbytes, hfront⟩ := front_encodeChar d rest
  rw [hbytes] at h
  have hsame := (front_of_append h).symm.trans hfront
  cases hsame
  exact ⟨rfl, rfl⟩

theorem val_le_iff (c : Char) (bound : UInt32) : c.val ≤ bound ↔ c.toNat < bound.toNat + 1 :=
  UInt32.le_iff_toNat_le.trans Nat.lt_succ_iff.symm

/-- The size of a character is the number of its bytes. -/
theorem length_encodeChar (c : Char) : (encodeChar c).length = c.utf8Size := by
  have hone : c.val ≤ 0x7F ↔ c.toNat < 0x80 := val_le_iff c 0x7F
  have htwo : c.val ≤ 0x7FF ↔ c.toNat < 0x800 := val_le_iff c 0x7FF
  have hthree : c.val ≤ 0xFFFF ↔ c.toNat < 0x10000 := val_le_iff c 0xFFFF
  have hsize : c.utf8Size =
      if c.val ≤ 0x7F then 1 else if c.val ≤ 0x7FF then 2 else if c.val ≤ 0xFFFF then 3 else 4 :=
    rfl
  rw [hsize, encodeChar]
  simp only [hone, htwo, hthree]
  split
  · rfl
  split
  · rfl
  split
  · rfl
  · rfl

/-- Bytes that are read to their end are the bytes of the text that is read. -/
theorem eq_encode_of_decodeFrom {position : Nat} {bytes : Bytes} {text : Text}
    (h : decodeFrom position bytes = .ok text) : bytes = encode text := by
  fun_induction decodeFrom position bytes generalizing text with
  | case1 position =>
      cases h
      rfl
  | case2 position first rest c rest' hfront ih =>
      cases hrest : decodeFrom (position + c.utf8Size) rest' with
      | error fault =>
          rw [hrest] at h
          cases h
      | ok tail =>
          rw [hrest] at h
          cases h
          rw [eq_append_of_front hfront, ih hrest, encode_cons]
  | case3 => cases h
  | case4 => cases h

/-- **Reading is exact.** Bytes read as a text when they are the bytes of that text. -/
theorem decode_eq_ok_iff {bytes : Bytes} {text : Text} :
    decode bytes = .ok text ↔ encode text = bytes := by
  constructor
  · intro h
    exact (eq_encode_of_decodeFrom h).symm
  · intro h
    rw [← h, decode_encode]

/-- The bytes start with those of the text `good`, and with more bytes of no text. -/
structure LongestText (good : Text) (bytes : Bytes) : Prop where
  start : encode good <+: bytes
  longest : ∀ other, encode other <+: bytes → (encode other).length ≤ (encode good).length

/-- Where no character stands at the front, the longest text is empty. -/
theorem longestText_nil {first : UInt8} {bytes : Bytes}
    (h : ∀ c rest, front first bytes ≠ .char c rest) : LongestText [] (first :: bytes) := by
  refine ⟨List.nil_prefix, ?_⟩
  rintro other ⟨after, hother⟩
  cases other with
  | nil => exact Nat.le_refl _
  | cons c other =>
      rw [encode_cons, List.append_assoc] at hother
      exact absurd (front_of_append hother) (h c _)

/-- The bytes of a character in front make the longest text longer by that character. -/
theorem LongestText.cons {good : Text} {bytes : Bytes} (h : LongestText good bytes) (c : Char) :
    LongestText (c :: good) (encodeChar c ++ bytes) := by
  refine ⟨?_, ?_⟩
  · rw [encode_cons]
    exact (List.prefix_append_right_inj _).mpr h.start
  · rintro other ⟨after, hother⟩
    cases other with
    | nil => exact Nat.zero_le _
    | cons d other =>
        rw [encode_cons, List.append_assoc] at hother
        obtain ⟨rfl, hrest⟩ := encodeChar_append_inj hother
        have hle := h.longest other ⟨after, hrest⟩
        simp only [encode_cons, List.length_append]
        omega

/-- A fault lies right behind the longest text at the front of the bytes. -/
theorem exists_longestText_of_decodeFrom {position : Nat} {bytes : Bytes} {fault : Fault}
    (h : decodeFrom position bytes = .error fault) :
    ∃ good, LongestText good bytes ∧ fault.position = position + (encode good).length := by
  fun_induction decodeFrom position bytes with
  | case1 position => cases h
  | case2 position first rest c rest' hfront ih =>
      cases hrest : decodeFrom (position + c.utf8Size) rest' with
      | ok tail =>
          rw [hrest] at h
          cases h
      | error fault' =>
          rw [hrest] at h
          cases h
          obtain ⟨good, hgood, hposition⟩ := ih hrest
          refine ⟨c :: good, ?_, ?_⟩
          · rw [eq_append_of_front hfront]
            exact hgood.cons c
          · rw [hposition, encode_cons, List.length_append, length_encodeChar, Nat.add_assoc]
  | case3 position first rest length hfront =>
      cases h
      refine ⟨[], longestText_nil ?_, rfl⟩
      intro c rest' hchar
      rw [hfront] at hchar
      cases hchar
  | case4 position first rest hfront =>
      cases h
      refine ⟨[], longestText_nil ?_, rfl⟩
      intro c rest' hchar
      rw [hfront] at hchar
      cases hchar

/-- **The good bytes before a fault.** They are those of the longest text that the bytes start
with. -/
theorem exists_longestText_of_decode_error {bytes : Bytes} {fault : Fault}
    (h : decode bytes = .error fault) :
    ∃ good, LongestText good bytes ∧ fault.position = (encode good).length := by
  obtain ⟨good, hgood, hposition⟩ := exists_longestText_of_decodeFrom h
  exact ⟨good, hgood, by rw [hposition, Nat.zero_add]⟩

end ArchiveSearch.Utf8
