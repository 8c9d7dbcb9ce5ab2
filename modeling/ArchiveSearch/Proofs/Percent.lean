import ArchiveSearch.Fragment.Percent
import ArchiveSearch.Proofs.Utf8

/-!
# Hexadecimal digits and kept bytes

What reading an escape needs of its two digits: they are ASCII, none is a percent sign, and their
values are the two halves of a byte (`Percent.escapedByte?_of_isDigit`). The digits that are written
are the upper-case ones among those that are read (`Percent.isUpperDigit_iff`,
`Percent.isDigit_hexDigit`), and the bytes that stand for themselves are ASCII and no percent signs
(`Percent.isKept_byte`).
-/

namespace ArchiveSearch.Percent

/-- The upper-case hexadecimal digits. -/
def upperDigits : List Char :=
  "0123456789ABCDEF".toList

/-- The lower-case hexadecimal digits. -/
def lowerDigits : List Char :=
  "0123456789abcdef".toList

/-- The hexadecimal digits of both cases, each with its value. -/
def digits : List (Char × Nat) :=
  upperDigits.zipIdx ++ lowerDigits.zipIdx

/-- Whether `c` is the hexadecimal digit of value `n`, of either case. -/
def IsDigit (c : Char) (n : Nat) : Prop :=
  (c, n) ∈ digits

instance (c : Char) (n : Nat) : Decidable (IsDigit c n) :=
  inferInstanceAs (Decidable ((c, n) ∈ digits))

theorem upperDigits_ascii : ∀ c ∈ upperDigits, c.toNat < 0x80 := by
  have hall : upperDigits.all (fun c => c.toNat < 0x80) = true := by decide
  simpa only [List.all_eq_true, decide_eq_true_eq] using hall

/-- Every half of a byte is written in an upper-case digit. -/
theorem hexDigit_mem {n : Nat} (h : n < 16) : hexDigit n ∈ upperDigits := by
  revert n
  decide

/-- Whether `c` is the upper-case hexadecimal digit of value `n`. -/
def IsUpperDigit (c : Char) (n : Nat) : Prop :=
  (c, n) ∈ upperDigits.zipIdx

theorem IsUpperDigit.isDigit {c : Char} {n : Nat} (h : IsUpperDigit c n) : IsDigit c n :=
  List.mem_append_left _ h

/-- The digit that is written for a number is its only upper-case digit. -/
theorem isUpperDigit_iff {c : Char} {n : Nat} (hn : n < 16) :
    IsUpperDigit c n ↔ c = hexDigit n := by
  have hall : ∀ k < 16, ∀ digit ∈ upperDigits.zipIdx, digit.2 = k → digit.1 = hexDigit k := by
    decide
  have hmem : ∀ k < 16, (hexDigit k, k) ∈ upperDigits.zipIdx := by decide
  constructor
  · intro h
    exact hall n hn (c, n) h rfl
  · rintro rfl
    exact hmem n hn

/-- The digit that is written for a number has its value. -/
theorem isDigit_hexDigit {n : Nat} (h : n < 16) : IsDigit (hexDigit n) n :=
  ((isUpperDigit_iff h).mpr rfl).isDigit

/-- A digit is one byte, which is no percent sign and from which the value is read. -/
theorem IsDigit.byte {c : Char} {n : Nat} (h : IsDigit c n) :
    c.toNat < 0x80 ∧ c ≠ '%' ∧ n < 16 ∧ hexValue? (.ofNat c.toNat) = some n := by
  have hall : digits.all (fun digit => digit.1.toNat < 0x80 ∧ digit.1 ≠ '%' ∧ digit.2 < 16 ∧
      hexValue? (.ofNat digit.1.toNat) = some digit.2) = true := by decide
  simp only [List.all_eq_true, decide_eq_true_eq] at hall
  exact hall (c, n) h

/-- A byte that has a value is a digit. -/
theorem isDigit_of_hexValue? {b : UInt8} {n : Nat} (h : hexValue? b = some n) :
    b.toNat < 0x80 ∧ IsDigit (.ofNat b.toNat) n := by
  have hall : ∀ k < 256, ∀ n ∈ hexValue? (.ofNat k), k < 0x80 ∧ IsDigit (.ofNat k) n := by
    decide +kernel
  apply hall b.toNat b.toNat_lt
  rw [UInt8.ofNat_toNat]
  exact h

/-- Two digits spell the byte whose halves they stand for. -/
theorem escapedByte?_of_isDigit {high low : Char} {b : UInt8} (hhigh : IsDigit high (b.toNat / 16))
    (hlow : IsDigit low (b.toNat % 16)) :
    escapedByte? (.ofNat high.toNat) (.ofNat low.toNat) = some b := by
  rw [escapedByte?, hhigh.byte.2.2.2, hlow.byte.2.2.2]
  simp only
  rw [Nat.div_add_mod, UInt8.ofNat_toNat]

/-- Bytes without a percent sign hold no escape. -/
theorem unescape_append_of_not_mem {bytes : Bytes} (h : 0x25 ∉ bytes) (rest : Bytes) :
    unescape (bytes ++ rest) = bytes ++ unescape rest := by
  induction bytes with
  | nil => rfl
  | cons b bytes ih =>
      have hne : b ≠ 0x25 := fun hb => h (hb ▸ List.mem_cons_self)
      rw [List.cons_append, unescape_cons_of_ne hne, ih (fun hb => h (List.mem_cons_of_mem b hb))]
      rfl

/-- A byte that is taken as a character keeps its value. -/
theorem toNat_charOfByte (b : UInt8) : (Char.ofNat b.toNat).toNat = b.toNat := by
  have hb : b.toNat < 256 := b.toNat_lt
  exact Utf8.toNat_ofNat_char (by omega)

theorem toNat_lt_of_isAlphanum {c : Char} (h : c.isAlphanum = true) : c.toNat < 0x80 := by
  delta Char.isAlphanum Char.isAlpha Char.isUpper Char.isLower Char.isDigit at h
  simp only [Bool.or_eq_true, Bool.and_eq_true, decide_eq_true_eq, ge_iff_le,
    UInt32.le_iff_toNat_le] at h
  change (0x41 ≤ c.toNat ∧ c.toNat ≤ 0x5A ∨ 0x61 ≤ c.toNat ∧ c.toNat ≤ 0x7A) ∨
    0x30 ≤ c.toNat ∧ c.toNat ≤ 0x39 at h
  omega

theorem marks_ascii : ∀ c ∈ marks, c.toNat < 0x80 := by
  have hall : marks.all (fun c => c.toNat < 0x80) = true := by decide
  simpa only [List.all_eq_true, decide_eq_true_eq] using hall

/-- A byte that stands for itself is ASCII, and no percent sign. -/
theorem isKept_byte {b : UInt8} (h : isKept b = true) :
    b.toNat < 0x80 ∧ Char.ofNat b.toNat ≠ '%' := by
  simp only [isKept, Bool.or_eq_true, List.contains_iff_mem] at h
  constructor
  · rw [← toNat_charOfByte]
    rcases h with halnum | hmark
    · exact toNat_lt_of_isAlphanum halnum
    · exact marks_ascii _ hmark
  · intro hpercent
    rw [hpercent] at h
    exact absurd h (by decide)

end ArchiveSearch.Percent
