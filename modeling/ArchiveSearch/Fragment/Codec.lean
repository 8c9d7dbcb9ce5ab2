import ArchiveSearch.Fragment.Error
import ArchiveSearch.Fragment.Percent

/-!
# Percent-encoded fragments

A query is kept in the fragment of a location. ASCII letters and digits and the marks
`- _ . ! ~ * ' ( )` stand for themselves; every other character is percent-encoded. Reading is wider
than writing: it takes digits of either case, leaves every character but the percent sign as it is,
and drops one number sign at the front. It is strict about escapes, all of which are checked before
any is replaced by its byte.
-/

namespace ArchiveSearch.Fragment

/-- The marks that stand for themselves. -/
def marks : List Char :=
  ['-', '_', '.', '!', '~', '*', '\'', '(', ')']

/-- Whether a character stands for itself; of letters and digits those of ASCII do. -/
def isUnreserved (c : Char) : Bool :=
  c.isAlphanum || marks.contains c

/-- A character as it stands in a fragment. -/
def encodeChar (c : Char) : Text :=
  if isUnreserved c then [c] else Percent.encode [c]

/-- The fragment of a query. -/
def encode (query : Text) : Text :=
  query.flatMap encodeChar

/-- Whether two hexadecimal digits stand at the front of some bytes. -/
def startsWithDigits : Bytes → Bool
  | high :: low :: _ => (Percent.hexValue? high).isSome && (Percent.hexValue? low).isSome
  | _ => false

/-- Whether every percent sign has two digits behind it, each looked at by itself, or where the
first one is that has not. `position` bytes stand before the bytes that are left. -/
def checkFrom (position : Nat) : Bytes → Except Error Unit
  | [] => .ok ()
  | b :: rest =>
      if b = 0x25 ∧ startsWithDigits rest = false then .error (.malformedEscape position)
      else checkFrom (position + 1) rest

/-- A byte that starts no escape is passed over. -/
theorem checkFrom_cons_of_ne {b : UInt8} (h : b ≠ 0x25) (position : Nat) (rest : Bytes) :
    checkFrom position (b :: rest) = checkFrom (position + 1) rest := by
  rw [checkFrom, if_neg (fun hbad => h hbad.1)]

/-- A percent sign with two digits behind it is passed over. -/
theorem checkFrom_percent {rest : Bytes} (h : startsWithDigits rest = true) (position : Nat) :
    checkFrom position (0x25 :: rest) = checkFrom (position + 1) rest := by
  rw [checkFrom, if_neg (by simp [h])]

/-- Whether every percent sign of a text starts an escape, or at which byte the first one is that
does not. -/
def checkEscapes (text : Text) : Except Error Unit :=
  checkFrom 0 (Utf8.encode text)

/-- A fragment without the number sign at its front, if it has one. -/
def withoutMark : Text → Text
  | '#' :: rest => rest
  | text => text

/-- The query that a fragment spells. -/
def decode (fragment : Text) : Except Error Text :=
  let text := withoutMark fragment
  match checkEscapes text with
  | .error e => .error e
  | .ok () => (Percent.decode text).mapError .invalidUtf8

end ArchiveSearch.Fragment
