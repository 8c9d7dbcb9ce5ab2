import ArchiveSearch.Text.Utf8

/-!
# UTF-8 round trip

Reading the bytes of a text gives the text back (`Utf8.decode_encode`). The heart of it is
`Utf8.front_encodeChar`: whatever follows the bytes of a character, that character is what stands at
their front. It holds for each length of a sequence by itself (`Utf8.front_one` to
`Utf8.front_four`), because the first byte fixes the shape of the rest and every later byte adds six
bits to the value.
-/

namespace ArchiveSearch.Utf8

theorem toNat_ofNat_byte {n : Nat} (h : n < 0x100) : (UInt8.ofNat n).toNat = n :=
  UInt8.toNat_ofNat_of_lt' (by simpa [UInt8.size] using h)

theorem toNat_ofNat_char {n : Nat} (h : n < 0xD800 ∨ 0xDFFF < n ∧ n < 0x110000) :
    (Char.ofNat n).toNat = n := by
  rw [Char.ofNat, dif_pos h]
  rfl

/-- A character beyond ASCII has no byte of ASCII. -/
theorem le_of_mem_encodeChar {c : Char} {b : UInt8} (hc : 0x80 ≤ c.toNat) (hb : b ∈ encodeChar c) :
    0x80 ≤ b.toNat := by
  have hscalar : c.toNat < 0xD800 ∨ 0xDFFF < c.toNat ∧ c.toNat < 0x110000 := c.valid
  obtain ⟨n, rfl, hlow, hhigh⟩ : ∃ n, b = .ofNat n ∧ 0x80 ≤ n ∧ n < 0x100 := by
    rw [encodeChar, if_neg (by omega)] at hb
    split at hb
    · simp only [List.mem_cons, List.not_mem_nil, or_false] at hb
      rcases hb with rfl | rfl <;> exact ⟨_, rfl, by omega, by omega⟩
    split at hb
    · simp only [List.mem_cons, List.not_mem_nil, or_false] at hb
      rcases hb with rfl | rfl | rfl <;> exact ⟨_, rfl, by omega, by omega⟩
    · simp only [List.mem_cons, List.not_mem_nil, or_false] at hb
      rcases hb with rfl | rfl | rfl | rfl <;> exact ⟨_, rfl, by omega, by omega⟩
  rw [toNat_ofNat_byte hhigh]
  exact hlow

/-- A byte between the bounds is taken, and adds six bits to the value. -/
theorem readTails_cons {share taken owed n : Nat} {low high : UInt8} {rest : Bytes}
    (hn : n < 0x40) (hlow : low.toNat ≤ 0x80 + n) (hhigh : 0x80 + n ≤ high.toNat) :
    readTails share taken low high (owed + 1) (.ofNat (0x80 + n) :: rest) =
      readTails (share * 0x40 + n) (taken + 1) 0x80 0xBF owed rest := by
  have hb : (UInt8.ofNat (0x80 + n)).toNat = 0x80 + n := toNat_ofNat_byte (by omega)
  rw [readTails, if_pos]
  · rw [hb, Nat.add_sub_cancel_left]
  · simp only [UInt8.le_iff_toNat_le, hb]
    exact ⟨hlow, hhigh⟩

/-- The second byte of a sequence may fall short of the usual bounds, the ones behind it not. -/
theorem readTails_cons_tail {share taken owed n : Nat} {rest : Bytes} (hn : n < 0x40) :
    readTails share taken 0x80 0xBF (owed + 1) (.ofNat (0x80 + n) :: rest) =
      readTails (share * 0x40 + n) (taken + 1) 0x80 0xBF owed rest :=
  readTails_cons hn (Nat.le_add_right _ _) (by change 0x80 + n ≤ 0xBF; omega)

/-- Reading a sequence whose first byte is `first`, when it has a shape. -/
theorem front_of_shape? {first : UInt8} {shape : Shape} (rest : Bytes)
    (h : shape? first = some shape) :
    front first rest = readTails shape.share 1 shape.low shape.high shape.tails rest := by
  have hge : ¬ first < 0x80 := by
    intro hlt
    have : first.toNat < 0x80 := hlt
    rw [shape?, if_pos (by omega)] at h
    cases h
  rw [front, if_neg hge, h]

/-- A byte of ASCII is a character by itself. -/
theorem front_one {n : Nat} (rest : Bytes) (h : n < 0x80) :
    front (.ofNat n) rest = .char (.ofNat n) rest := by
  have hb : (UInt8.ofNat n).toNat = n := toNat_ofNat_byte (by omega)
  have hlt : UInt8.ofNat n < 0x80 := by
    rw [UInt8.lt_iff_toNat_lt, hb]
    exact h
  rw [front, if_pos hlt, hb]

/-- The first of two bytes brings five bits, and the second six. -/
theorem front_two {n : Nat} (rest : Bytes) (hlow : 0x80 ≤ n) (hhigh : n < 0x800) :
    front (.ofNat (0xC0 + n / 0x40)) (.ofNat (0x80 + n % 0x40) :: rest) =
      .char (.ofNat n) rest := by
  have hshape : shape? (.ofNat (0xC0 + n / 0x40)) = some ⟨n / 0x40, 1, 0x80, 0xBF⟩ := by
    have hb : (UInt8.ofNat (0xC0 + n / 0x40)).toNat = 0xC0 + n / 0x40 :=
      toNat_ofNat_byte (by omega)
    rw [shape?, hb, if_neg (by omega), if_pos (by omega), Nat.add_sub_cancel_left]
  rw [front_of_shape? _ hshape, readTails_cons_tail (by omega), readTails,
    show n / 0x40 * 0x40 + n % 0x40 = n by omega]

/-- The first byte of three: what it allows for the second takes the second byte of every character,
since none of them is a surrogate. -/
theorem shape?_three {n : Nat} (hlow : 0x800 ≤ n) (hhigh : n < 0x10000)
    (hscalar : n < 0xD800 ∨ 0xDFFF < n) :
    ∃ low high, shape? (.ofNat (0xE0 + n / 0x1000)) = some ⟨n / 0x1000, 2, low, high⟩ ∧
      low.toNat ≤ 0x80 + n / 0x40 % 0x40 ∧ 0x80 + n / 0x40 % 0x40 ≤ high.toNat := by
  have hb : (UInt8.ofNat (0xE0 + n / 0x1000)).toNat = 0xE0 + n / 0x1000 :=
    toNat_ofNat_byte (by omega)
  rw [shape?, hb, if_neg (by omega), if_neg (by omega)]
  by_cases h0 : 0xE0 + n / 0x1000 = 0xE0
  · exact ⟨0xA0, 0xBF, by rw [if_pos h0, Nat.add_sub_cancel_left],
      by change 0xA0 ≤ _; omega, by change _ ≤ 0xBF; omega⟩
  · by_cases hd : 0xE0 + n / 0x1000 = 0xED
    · exact ⟨0x80, 0x9F, by rw [if_neg h0, if_pos hd, Nat.add_sub_cancel_left],
        by change 0x80 ≤ _; omega, by change _ ≤ 0x9F; omega⟩
    · exact ⟨0x80, 0xBF, by rw [if_neg h0, if_neg hd, if_pos (by omega), Nat.add_sub_cancel_left],
        by change 0x80 ≤ _; omega, by change _ ≤ 0xBF; omega⟩

/-- The first of three bytes brings four bits, and each of the others six. -/
theorem front_three {n : Nat} (rest : Bytes) (hlow : 0x800 ≤ n) (hhigh : n < 0x10000)
    (hscalar : n < 0xD800 ∨ 0xDFFF < n) :
    front (.ofNat (0xE0 + n / 0x1000))
        (.ofNat (0x80 + n / 0x40 % 0x40) :: .ofNat (0x80 + n % 0x40) :: rest) =
      .char (.ofNat n) rest := by
  obtain ⟨low, high, hshape, hge, hle⟩ := shape?_three hlow hhigh hscalar
  rw [front_of_shape? _ hshape, readTails_cons (by omega) hge hle, readTails_cons_tail (by omega),
    readTails, show (n / 0x1000 * 0x40 + n / 0x40 % 0x40) * 0x40 + n % 0x40 = n by omega]

/-- The first byte of four: what it allows for the second takes the second byte of every character,
since none of them lies above the last scalar value. -/
theorem shape?_four {n : Nat} (hlow : 0x10000 ≤ n) (hhigh : n < 0x110000) :
    ∃ low high, shape? (.ofNat (0xF0 + n / 0x40000)) = some ⟨n / 0x40000, 3, low, high⟩ ∧
      low.toNat ≤ 0x80 + n / 0x1000 % 0x40 ∧ 0x80 + n / 0x1000 % 0x40 ≤ high.toNat := by
  have hb : (UInt8.ofNat (0xF0 + n / 0x40000)).toNat = 0xF0 + n / 0x40000 :=
    toNat_ofNat_byte (by omega)
  rw [shape?, hb, if_neg (by omega), if_neg (by omega), if_neg (by omega), if_neg (by omega),
    if_neg (by omega)]
  by_cases h0 : 0xF0 + n / 0x40000 = 0xF0
  · exact ⟨0x90, 0xBF, by rw [if_pos h0, Nat.add_sub_cancel_left],
      by change 0x90 ≤ _; omega, by change _ ≤ 0xBF; omega⟩
  · by_cases h4 : 0xF0 + n / 0x40000 < 0xF4
    · exact ⟨0x80, 0xBF, by rw [if_neg h0, if_pos h4, Nat.add_sub_cancel_left],
        by change 0x80 ≤ _; omega, by change _ ≤ 0xBF; omega⟩
    · exact ⟨0x80, 0x8F,
        by rw [if_neg h0, if_neg h4, if_pos (by omega), Nat.add_sub_cancel_left],
        by change 0x80 ≤ _; omega, by change _ ≤ 0x8F; omega⟩

/-- The first of four bytes brings three bits, and each of the others six. -/
theorem front_four {n : Nat} (rest : Bytes) (hlow : 0x10000 ≤ n) (hhigh : n < 0x110000) :
    front (.ofNat (0xF0 + n / 0x40000))
        (.ofNat (0x80 + n / 0x1000 % 0x40) :: .ofNat (0x80 + n / 0x40 % 0x40) ::
          .ofNat (0x80 + n % 0x40) :: rest) =
      .char (.ofNat n) rest := by
  obtain ⟨low, high, hshape, hge, hle⟩ := shape?_four hlow hhigh
  rw [front_of_shape? _ hshape, readTails_cons (by omega) hge hle, readTails_cons_tail (by omega),
    readTails_cons_tail (by omega), readTails,
    show ((n / 0x40000 * 0x40 + n / 0x1000 % 0x40) * 0x40 + n / 0x40 % 0x40) * 0x40 + n % 0x40 = n
      by omega]

/-- The front of the bytes of a character is that character, whatever follows. -/
theorem front_encodeChar (c : Char) (rest : Bytes) :
    ∃ first tail, encodeChar c = first :: tail ∧ front first (tail ++ rest) = .char c rest := by
  have hscalar : c.toNat < 0xD800 ∨ 0xDFFF < c.toNat ∧ c.toNat < 0x110000 := c.valid
  have hc : Char.ofNat c.toNat = c := Char.ofNat_toNat c
  simp only [encodeChar]
  by_cases h1 : c.toNat < 0x80
  · have hfront := front_one rest h1
    rw [hc] at hfront
    exact ⟨_, _, if_pos h1, hfront⟩
  · rw [if_neg h1]
    by_cases h2 : c.toNat < 0x800
    · have hfront := front_two rest (by omega) h2
      rw [hc] at hfront
      exact ⟨_, _, if_pos h2, hfront⟩
    · rw [if_neg h2]
      by_cases h3 : c.toNat < 0x10000
      · have hfront := front_three rest (by omega) h3 (by omega)
        rw [hc] at hfront
        exact ⟨_, _, if_pos h3, hfront⟩
      · have hfront := front_four (n := c.toNat) rest (by omega) (by omega)
        rw [hc] at hfront
        exact ⟨_, _, if_neg h3, hfront⟩

/-- Behind the bytes of a character reading goes on at the position where they end. -/
theorem decodeFrom_encodeChar_append (position : Nat) (c : Char) (rest : Bytes) :
    decodeFrom position (encodeChar c ++ rest) =
      (decodeFrom (position + c.utf8Size) rest).map (c :: ·) := by
  obtain ⟨first, tail, hbytes, hfront⟩ := front_encodeChar c rest
  rw [hbytes, List.cons_append, decodeFrom]
  split <;> simp_all

/-- The bytes of a text are read to their end, from whatever position they are counted. -/
theorem decodeFrom_encode (position : Nat) (text : Text) :
    decodeFrom position (encode text) = .ok text := by
  induction text generalizing position with
  | nil => simp [decodeFrom]
  | cons c text ih =>
      rw [encode_cons, decodeFrom_encodeChar_append, ih]
      rfl

/-- **UTF-8 round trip.** The bytes of a text spell that text. -/
theorem decode_encode (text : Text) : decode (encode text) = .ok text :=
  decodeFrom_encode 0 text

/-- The bytes of a text are read as that text. -/
theorem text?_encode (text : Text) : text? (encode text) = some text := by
  rw [text?, decode_encode]
  rfl

end ArchiveSearch.Utf8
