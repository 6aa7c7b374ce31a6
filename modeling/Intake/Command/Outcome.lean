import Intake.Command
import Intake.Error
import Intake.Notice

/-!
# What commands print

A command ends with an exit code and lines on its two outputs. Pipes get compact JSON. On a terminal
a document is indented, and reports and notices are text whose labels may be colored.
-/

namespace Intake

/-- The end of a command: its exit code and what it printed, one line or block after the other. -/
structure Outcome where
  exitCode : Nat
  output : List String := []
  errors : List String := []

namespace Outcome

/-- Where a command prints to, and how. -/
structure Setting where
  outputIsTerminal : Bool := false
  errorsAreTerminal : Bool := false
  color : ColorMode := .auto

/-- Whether labels are colored. -/
def Setting.colors (s : Setting) : Bool := s.color.colors s.errorsAreTerminal

inductive Tone where
  | failure
  | detail

def Tone.code : Tone → String
  | .failure => "31"
  | .detail => "33"

def Tone.paint (t : Tone) (colored : Bool) (label : String) : String :=
  if colored then "\x1b[" ++ t.code ++ "m" ++ label ++ "\x1b[0m" else label

def documentText (s : Setting) (j : Json) : String :=
  if s.outputIsTerminal then j.indented else j.compact

/-- A report as text, one line for each thing it says. Of the causes it names the nearest. -/
def reportLines (colored : Bool) (e : Error) : List String :=
  let detail (label : String) (text : Option String) : List String :=
    (text.map fun t => Tone.detail.paint colored label ++ " " ++ t).toList
  [Tone.failure.paint colored "error:" ++ " " ++ e.messageText] ++
    detail "hint:" e.hint ++ detail "parameter:" e.parameter ++
    detail "index:" (e.index.map toString) ++ detail "caused by:" e.causes.head?

def reportText (s : Setting) (e : Error) : String :=
  if s.errorsAreTerminal then "\n".intercalate (reportLines s.colors e) else e.report.compact

def noticeText (s : Setting) (n : Notice) : String :=
  if s.errorsAreTerminal then
    Tone.detail.paint s.colors "notice:" ++ " " ++ n.message ++ " (endpoint: " ++ n.endpoint ++ ")"
  else n.toJson.compact

def failure (s : Setting) (e : Error) : Outcome where
  exitCode := e.kind.exitCode
  errors := [reportText s e]

end Outcome

end Intake
