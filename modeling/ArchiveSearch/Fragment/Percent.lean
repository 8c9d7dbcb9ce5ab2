import ArchiveSearch.Text.Utf8

/-!
# Percent-encoding

The bytes of a text, written in ASCII. ASCII letters and digits and the marks `- _ . ~` stand for
themselves; every other byte is an escape, a percent sign and two upper-case hexadecimal digits.
Reading takes digits of either case and leaves alone what is no escape, a percent sign included;
what comes out has to be UTF-8.
-/

namespace ArchiveSearch.Percent

/-- The upper-case hexadecimal digit of a number below sixteen. -/
def hexDigit (n : Nat) : Char :=
  .ofNat (if n < 10 then 0x30 + n else 0x37 + n)

/-- The value of the hexadecimal digit that a byte spells, of either case. -/
def hexValue? (b : UInt8) : Option Nat :=
  let n := b.toNat
  if 0x30 ≤ n ∧ n ≤ 0x39 then some (n - 0x30)
  else if 0x41 ≤ n ∧ n ≤ 0x46 then some (n - 0x37)
  else if 0x61 ≤ n ∧ n ≤ 0x66 then some (n - 0x57)
  else none

/-- The marks that stand for themselves. -/
def marks : List Char :=
  ['-', '_', '.', '~']

/-- Whether a byte stands for itself. -/
def isKept (b : UInt8) : Bool :=
  let c := Char.ofNat b.toNat
  c.isAlphanum || marks.contains c

/-- A byte as an escape. -/
def escapeByte (b : UInt8) : Text :=
  ['%', hexDigit (b.toNat / 16), hexDigit (b.toNat % 16)]

/-- A byte as it is written. -/
def encodeByte (b : UInt8) : Text :=
  if isKept b then [.ofNat b.toNat] else escapeByte b

/-- A text in percent-encoding. -/
def encode (text : Text) : Text :=
  (Utf8.encode text).flatMap encodeByte

/-- The byte that two digits of an escape spell. -/
def escapedByte? (high low : UInt8) : Option UInt8 :=
  match hexValue? high, hexValue? low with
  | some h, some l => some (.ofNat (16 * h + l))
  | _, _ => none

/-- Some bytes with each escape replaced by its byte. -/
def unescape : Bytes → Bytes
  | 0x25 :: high :: low :: rest =>
      match escapedByte? high low with
      | some b => b :: unescape rest
      | none => 0x25 :: unescape (high :: low :: rest)
  | b :: rest => b :: unescape rest
  | [] => []

theorem unescape_cons_of_ne {b : UInt8} (h : b ≠ 0x25) (rest : Bytes) :
    unescape (b :: rest) = b :: unescape rest := by
  rw [unescape]
  intro high low rest' hpercent
  exact absurd hpercent h

/-- The text that a percent-encoding spells, or where its bytes stop being UTF-8. -/
def decode (text : Text) : Except Utf8.Fault Text :=
  Utf8.decode (unescape (Utf8.encode text))

end ArchiveSearch.Percent
