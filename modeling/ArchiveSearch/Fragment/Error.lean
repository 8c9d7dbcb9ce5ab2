import ArchiveSearch.Text.Utf8

/-!
# Fragment errors

The two ways in which a fragment can fail to spell a text. An escape can be malformed, and then the
position is that of its percent sign in the fragment; or the escapes can spell bytes that are not
UTF-8, and then the position is the number of good bytes before the first bad one.
-/

namespace ArchiveSearch.Fragment

/-- Why a fragment spells no text. -/
inductive Error where
  /-- The percent sign at byte `position` does not start an escape. -/
  | malformedEscape (position : Nat)
  /-- The bytes that the fragment spells are not UTF-8. -/
  | invalidUtf8 (fault : Utf8.Fault)
  deriving DecidableEq, Repr

namespace Error

/-- The name of the kind of an error. -/
def kind : Error → Text
  | malformedEscape _ => "MalformedEscape".toList
  | invalidUtf8 _ => "InvalidUtf8".toList

/-- The byte position of an error. -/
def position : Error → Nat
  | malformedEscape position => position
  | invalidUtf8 fault => fault.position

/-- What was expected or found. -/
def reason : Error → Text
  | malformedEscape _ => "Expected two hex digits after '%'".toList
  | invalidUtf8 fault => fault.message

/-- The position of an error in digits. -/
def positionText (error : Error) : Text :=
  error.position.repr.toList

/-- An error in words. -/
def message (error : Error) : Text :=
  error.kind ++ " Error in fragment at: (\"".toList ++ error.positionText ++ "\") - \"".toList ++
    error.reason ++ "\"".toList

/-- An error with each of its parts named. -/
def details (error : Error) : Text :=
  "FragmentError \x7b msg: \"".toList ++ error.reason ++ "\", pos: \"".toList ++
    error.positionText ++ "\", kind: ".toList ++ error.kind ++ " \x7d".toList

end Error

end ArchiveSearch.Fragment
