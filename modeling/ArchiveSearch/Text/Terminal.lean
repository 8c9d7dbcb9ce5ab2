import ArchiveSearch.Text.Utf8

/-!
# Text for a terminal

A terminal takes control characters as orders, and so it does whole runs of characters that start
with the escape character. A text from outside is shown without them: `plain` keeps the printable
characters and the white space and drops controls, escape sequences, control sequences and control
strings. White space ends a sequence that is not finished, except inside a control string.

No character beyond ASCII has a part in a sequence, so inside one it is dropped. To a terminal a
text is bytes, though, and the byte 0x9C ends the body of most control strings, in whichever
character it stands.
-/

namespace ArchiveSearch.Terminal

/-- What a terminal is in the middle of. -/
inductive State where
  /-- Ordinary text. -/
  | text
  /-- An escape sequence of which only the escape character has come. -/
  | escape
  /-- An escape sequence that waits for its last character. -/
  | designation
  /-- A control sequence, from the bracket to its last character. -/
  | control
  /-- An operating system command, a control string that a bell ends, and no byte 0x9C. -/
  | command
  /-- A device control string of which only the introducer has come. -/
  | device
  /-- The parameters of a device control string. -/
  | deviceParameters
  /-- What stands between the parameters of a device control string and its name. -/
  | deviceIntermediates
  /-- The body of a control string, which the byte 0x9C ends. -/
  | body
  deriving DecidableEq, Repr

/-- Whether a state is inside a control string. -/
def State.isString : State → Bool
  | command | device | deviceParameters | deviceIntermediates | body => true
  | text | escape | designation | control => false

/-- Whether a character is a control character of ASCII. -/
def isControl (c : Char) : Bool :=
  c.toNat < 0x20 || c.toNat == 0x7F

/-- Whether a control character is white space; the vertical tab is not. -/
def isSpacing (c : Char) : Bool :=
  c == '\t' || c == '\n' || c == '\x0c' || c == '\r'

/-- Whether a character is shown in a given state. -/
def shows (state : State) (c : Char) : Bool :=
  if isControl c then isSpacing c && !state.isString else state == .text

/-- Whether the bytes of a character hold the byte that ends a control string. -/
def holdsTerminator (c : Char) : Bool :=
  (Utf8.encodeChar c).contains 0x9C

/-- The state after the first character of an escape sequence, which is printable ASCII. -/
def opened (c : Char) : State :=
  if c.toNat < 0x30 then .designation
  else if c = '[' then .control
  else if c = ']' then .command
  else if c = 'P' then .device
  else if c = 'X' || c = '^' || c = '_' then .body
  else .text

/-- The state after a character of printable ASCII. -/
def advance (state : State) (c : Char) : State :=
  match state with
  | .text => .text
  | .escape => opened c
  | .designation => if c.toNat < 0x30 then .designation else .text
  | .control => if c.toNat < 0x40 then .control else .text
  | .command => .command
  | .device =>
      if c.toNat < 0x30 then .deviceIntermediates
      else if c.toNat < 0x40 then .deviceParameters
      else .body
  | .deviceParameters =>
      if c.toNat < 0x30 then .deviceIntermediates
      else if c.toNat < 0x3C then .deviceParameters
      else .body
  | .deviceIntermediates => if c.toNat < 0x30 then .deviceIntermediates else .body
  | .body => .body

/-- The state after a character. -/
def next (state : State) (c : Char) : State :=
  if shows state c then .text
  else if c = '\x1b' then .escape
  else if c = '\x18' || c = '\x1a' then .text
  else if isControl c then if state = .command ∧ c = '\x07' then .text else state
  else if c.toNat < 0x80 then advance state c
  else if state = .body ∧ holdsTerminator c then .text
  else state

/-- What is shown of a text that comes in a given state. -/
def plainFrom (state : State) : Text → Text
  | [] => []
  | c :: rest =>
      if shows state c then c :: plainFrom (next state c) rest else plainFrom (next state c) rest

/-- What is shown of a text. -/
def plain (text : Text) : Text :=
  plainFrom .text text

end ArchiveSearch.Terminal
