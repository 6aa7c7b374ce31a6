/-!
# Text without control codes

A text that comes from outside may hold codes that steer a terminal. They are left out of messages:
single control characters other than white space, and sequences that an escape character starts.
White space in the middle of a short sequence is shown and ends it.
-/

namespace Intake.Text

def isLayout (c : Char) : Bool := c == '\t' || c == '\n' || c == '\x0c' || c == '\r'

def isPrinted (c : Char) : Bool := (' ' ≤ c && c != '\x7f') || isLayout c

/-- Where among control codes a character stands. -/
inductive ControlState where
  | outside
  /-- Right behind an escape character. -/
  | escaped
  /-- In a sequence that a character from `0` on ends. -/
  | short
  /-- In a sequence that a character from `@` on ends. -/
  | parameters
  /-- At the start of a message to the device. -/
  | device
  /-- Among the numbers that start a message to the device. -/
  | deviceNumbers
  /-- Among the marks behind those numbers. -/
  | deviceMarks
  /-- In the content of a message, which a string terminator ends. -/
  | payload
  /-- In a command to the operating system, which a bell ends. -/
  | command
  deriving DecidableEq

namespace ControlState

/-- The state that a character right behind an escape character leads to. -/
def afterEscape (c : Char) : ControlState :=
  if c ≤ '/' then .short
  else if c == '[' then .parameters
  else if c == ']' then .command
  else if c == 'P' then .device
  else if c == 'X' || c == '^' || c == '_' then .payload
  else .outside

/-- The state after an ASCII character that is no control character. -/
def afterText (s : ControlState) (c : Char) : ControlState :=
  match s with
  | .outside => .outside
  | .escaped => afterEscape c
  | .short => if c ≤ '/' then .short else .outside
  | .parameters => if c ≤ '?' then .parameters else .outside
  | .device => if c ≤ '/' then .deviceMarks else if c ≤ '?' then .deviceNumbers else .payload
  | .deviceNumbers =>
      if c ≤ '/' then .deviceMarks else if c ≤ ';' then .deviceNumbers else .payload
  | .deviceMarks => if c ≤ '/' then .deviceMarks else .payload
  | .payload => .payload
  | .command => .command

/-- Whether a character is shown. White space is, also in the middle of a short sequence. -/
def shows (s : ControlState) (c : Char) : Bool :=
  match s with
  | .outside => isPrinted c
  | .escaped => isLayout c
  | .short => isLayout c
  | .parameters => isLayout c
  | _ => false

/-- The state after a character. Three control characters count everywhere. A string terminator is
the byte `9C`, also as a part of another character. -/
def next (s : ControlState) (c : Char) : ControlState :=
  if c == '\x1b' then .escaped
  else if c == '\x18' || c == '\x1a' || s.shows c then .outside
  else if c == '\x07' && s = .command then .outside
  else if s = .payload && 0x9C ∈ String.utf8EncodeChar c then .outside
  else if c < ' ' || '\x7f' ≤ c then s
  else s.afterText c

end ControlState

def shownFrom (s : ControlState) : List Char → List Char
  | [] => []
  | c :: rest => if s.shows c then c :: shownFrom (s.next c) rest else shownFrom (s.next c) rest

/-- A text without the control codes in it. -/
def withoutControls (s : String) : String := String.ofList (shownFrom .outside s.toList)

end Intake.Text
