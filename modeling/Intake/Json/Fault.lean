/-!
# Faults in JSON text

Reading stops at the first fault. A fault is reported with a place in the text: its line, counted
from 1, and its column, the number of bytes from the start of that line.
-/

namespace Intake.Json

/-- What can be wrong with a text that is read as JSON. -/
inductive Fault where
  | endInValue
  | endInString
  | endInList
  | endInObject
  | valueExpected
  | wordExpected
  | colonExpected
  | listEndExpected
  | objectEndExpected
  | keyExpected
  | trailingComma
  | trailingText
  | invalidNumber
  | numberOutOfRange
  | invalidEscape
  | loneSurrogate
  | surrogateUnfinished
  | controlCharacter
  | tooDeep
  deriving DecidableEq

def Fault.text : Fault → String
  | .endInValue => "EOF while parsing a value"
  | .endInString => "EOF while parsing a string"
  | .endInList => "EOF while parsing a list"
  | .endInObject => "EOF while parsing an object"
  | .valueExpected => "expected value"
  | .wordExpected => "expected ident"
  | .colonExpected => "expected `:`"
  | .listEndExpected => "expected `,` or `]`"
  | .objectEndExpected => "expected `,` or `\x7d`"
  | .keyExpected => "key must be a string"
  | .trailingComma => "trailing comma"
  | .trailingText => "trailing characters"
  | .invalidNumber => "invalid number"
  | .numberOutOfRange => "number out of range"
  | .invalidEscape => "invalid escape"
  | .loneSurrogate => "lone leading surrogate in hex escape"
  | .surrogateUnfinished => "unexpected end of hex escape"
  | .controlCharacter => "control character (\\u0000-\\u001F) found while parsing a string"
  | .tooDeep => "recursion limit exceeded"

/-- A fault and the number of bytes before the place that is reported for it. -/
structure Flaw where
  fault : Fault
  offset : Nat
  deriving DecidableEq

structure Position where
  line : Nat
  column : Nat
  deriving DecidableEq

/-- The place `offset` bytes into a text whose rest from byte `here` on is given; the current line
starts at byte `start`. -/
def Position.seek (offset : Nat) (line start here : Nat) : List Char → Position
  | [] => ⟨line, offset - start⟩
  | c :: rest =>
      if offset ≤ here then ⟨line, offset - start⟩
      else if c == '\n' then seek offset (line + 1) (here + 1) (here + 1) rest
      else seek offset line start (here + c.utf8Size) rest

/-- The place that lies a number of bytes into a text. -/
def Position.of (text : String) (offset : Nat) : Position :=
  .seek offset 1 0 0 text.toList

def Position.locate (message : String) (p : Position) : String :=
  message ++ " at line " ++ toString p.line ++ " column " ++ toString p.column

def Flaw.report (f : Flaw) (text : String) : String :=
  (Position.of text f.offset).locate f.fault.text

end Intake.Json
