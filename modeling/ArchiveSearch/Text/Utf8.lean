import ArchiveSearch.Text.Basic

/-!
# UTF-8

The bytes of a text, and the text of some bytes. A sequence of several bytes has the shape that its
first byte fixes: how many bytes follow, and between which bounds the second one lies. The bounds
keep out the spellings that are too long, the surrogates and everything above U+10FFFF, so each
character has one spelling. Reading reports the first `Fault`: how many bytes before it are good,
and how long the bad piece is, or that the bytes end inside a sequence that was good so far.
-/

namespace ArchiveSearch.Utf8

/-- The bytes of one character. -/
def encodeChar (c : Char) : Bytes :=
  let n := c.toNat
  if n < 0x80 then [.ofNat n]
  else if n < 0x800 then [.ofNat (0xC0 + n / 0x40), .ofNat (0x80 + n % 0x40)]
  else if n < 0x10000 then
    [.ofNat (0xE0 + n / 0x1000), .ofNat (0x80 + n / 0x40 % 0x40), .ofNat (0x80 + n % 0x40)]
  else
    [.ofNat (0xF0 + n / 0x40000), .ofNat (0x80 + n / 0x1000 % 0x40),
      .ofNat (0x80 + n / 0x40 % 0x40), .ofNat (0x80 + n % 0x40)]

/-- The bytes of a text. -/
def encode (text : Text) : Bytes :=
  text.flatMap encodeChar

/-- An ASCII character is one byte. -/
theorem encodeChar_of_lt {c : Char} (h : c.toNat < 0x80) : encodeChar c = [.ofNat c.toNat] :=
  if_pos h

@[simp] theorem encode_nil : encode [] = [] :=
  rfl

@[simp] theorem encode_cons (c : Char) (text : Text) :
    encode (c :: text) = encodeChar c ++ encode text :=
  List.flatMap_cons

@[simp] theorem encode_append (text other : Text) :
    encode (text ++ other) = encode text ++ encode other :=
  List.flatMap_append

/-- What the first byte of a sequence fixes: its own share of the scalar value, the number of bytes
that follow, and the bounds of the next byte. -/
structure Shape where
  share : Nat
  tails : Nat
  low : UInt8
  high : UInt8

/-- The shape of the sequences that start with `first`, if any does. -/
def shape? (first : UInt8) : Option Shape :=
  let n := first.toNat
  if n < 0xC2 then none
  else if n < 0xE0 then some ⟨n - 0xC0, 1, 0x80, 0xBF⟩
  else if n = 0xE0 then some ⟨n - 0xE0, 2, 0xA0, 0xBF⟩
  else if n = 0xED then some ⟨n - 0xE0, 2, 0x80, 0x9F⟩
  else if n < 0xF0 then some ⟨n - 0xE0, 2, 0x80, 0xBF⟩
  else if n = 0xF0 then some ⟨n - 0xF0, 3, 0x90, 0xBF⟩
  else if n < 0xF4 then some ⟨n - 0xF0, 3, 0x80, 0xBF⟩
  else if n = 0xF4 then some ⟨n - 0xF0, 3, 0x80, 0x8F⟩
  else none

/-- What stands at the front of some bytes. -/
inductive Front where
  /-- A character, and the bytes after it. -/
  | char (c : Char) (rest : Bytes)
  /-- A piece of so many bytes that starts like a character and is none. -/
  | broken (length : Nat)
  /-- A character whose last bytes are missing. -/
  | cutShort

/-- Reads the bytes that a sequence still owes. `share` is the value of the `taken` bytes before
them, and the next byte lies between `low` and `high`. -/
def readTails (share taken : Nat) (low high : UInt8) : Nat → Bytes → Front
  | 0, rest => .char (.ofNat share) rest
  | _ + 1, [] => .cutShort
  | owed + 1, b :: rest =>
      if low ≤ b ∧ b ≤ high then
        readTails (share * 0x40 + (b.toNat - 0x80)) (taken + 1) 0x80 0xBF owed rest
      else .broken taken

/-- Reads the character that starts with the byte `first`. -/
def front (first : UInt8) (rest : Bytes) : Front :=
  if first < 0x80 then .char (.ofNat first.toNat) rest
  else
    match shape? first with
    | none => .broken 1
    | some shape => readTails shape.share 1 shape.low shape.high shape.tails rest

theorem readTails_rest_length {share taken owed : Nat} {low high : UInt8} {bytes rest : Bytes}
    {c : Char} (h : readTails share taken low high owed bytes = .char c rest) :
    rest.length ≤ bytes.length := by
  induction bytes generalizing share taken low high owed with
  | nil => cases owed <;> simp_all [readTails]
  | cons b bytes ih =>
      cases owed with
      | zero => simp_all [readTails]
      | succ owed =>
          rw [readTails] at h
          split at h
          · exact Nat.le_succ_of_le (ih h)
          · cases h

/-- What follows a character is shorter than what it was read from. -/
theorem front_rest_length {first : UInt8} {bytes rest : Bytes} {c : Char}
    (h : front first bytes = .char c rest) : rest.length < (first :: bytes).length := by
  rw [front] at h
  split at h
  · cases h; simp
  · split at h
    · cases h
    · exact Nat.lt_succ_of_le (readTails_rest_length h)

/-- Where some bytes stop being UTF-8: the number of good bytes before that place, and the length
of the bad piece there, or nothing if the bytes only end too early. -/
structure Fault where
  position : Nat
  length? : Option Nat
  deriving DecidableEq, Repr

/-- The text that some bytes spell, when `position` good bytes stand before them. -/
def decodeFrom (position : Nat) (bytes : Bytes) : Except Fault Text :=
  match bytes with
  | [] => .ok []
  | first :: rest =>
      match _h : front first rest with
      | .char c rest => (decodeFrom (position + c.utf8Size) rest).map (c :: ·)
      | .broken length => .error ⟨position, some length⟩
      | .cutShort => .error ⟨position, none⟩
termination_by bytes.length
decreasing_by exact front_rest_length _h

/-- The text that some bytes spell, or the first place where they spell none. -/
def decode (bytes : Bytes) : Except Fault Text :=
  decodeFrom 0 bytes

/-- The text that some bytes spell, with U+FFFD in place of each bad piece. -/
def decodeLossy (bytes : Bytes) : Text :=
  match bytes with
  | [] => []
  | first :: rest =>
      match _h : front first rest with
      | .char c rest => c :: decodeLossy rest
      | .broken length => '\uFFFD' :: decodeLossy (rest.drop (length - 1))
      | .cutShort => ['\uFFFD']
termination_by bytes.length
decreasing_by
  · exact front_rest_length _h
  · simp only [List.length_drop, List.length_cons]; omega

/-- The text that some bytes spell, if they spell one. -/
def text? (bytes : Bytes) : Option Text :=
  (decode bytes).toOption

namespace Fault

/-- A fault in words. -/
def message (fault : Fault) : Text :=
  match fault.length? with
  | some length =>
      "invalid utf-8 sequence of ".toList ++ length.repr.toList ++ " bytes from index ".toList ++
        fault.position.repr.toList
  | none => "incomplete utf-8 byte sequence from index ".toList ++ fault.position.repr.toList

end Fault

end ArchiveSearch.Utf8
