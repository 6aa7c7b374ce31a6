import Intake.Json.Printer

/-!
# Errors

Every failure is reported in one form: a kind, and where they are known a message, the parameter
and the place in the stream it is about, a hint, and what caused it. A value that cannot be decoded
from a request has a failure type of its own, which a report carries along: by it a reader of the
report tells absent and malformed data from broken contracts.
-/

namespace Intake

/-! ## Failures to decode -/

/-- Why a request gives no value for a parameter. -/
inductive DecodeFailure where
  /-- There is no entry for the parameter. -/
  | noEntry (parameter : String)
  /-- There is an entry without a value. -/
  | noValue (parameter : String)
  /-- There is a value of a wrong form. -/
  | malformed (parameter : String) (reason : String)
  deriving DecidableEq

namespace DecodeFailure

def parameter : DecodeFailure → String
  | .noEntry p => p
  | .noValue p => p
  | .malformed p _ => p

/-- A failure for which a default may stand in. -/
def isAbsence : DecodeFailure → Bool
  | .noEntry _ => true
  | .noValue _ => true
  | .malformed _ _ => false

def text : DecodeFailure → String
  | .noEntry p => "no entry for parameter '" ++ p ++ "'"
  | .noValue p => "no value for parameter '" ++ p ++ "'"
  | .malformed p reason => "malformed value for parameter '" ++ p ++ "': " ++ reason

end DecodeFailure

/-! ## Reports -/

/-- The kinds of failure, which a caller may tell apart. -/
inductive ErrorKind where
  | internal
  | usage
  | notFound
  | badInput
  | io
  deriving DecidableEq

namespace ErrorKind

def name : ErrorKind → String
  | .internal => "Internal"
  | .usage => "Usage"
  | .notFound => "NotFound"
  | .badInput => "BadInput"
  | .io => "Io"

/-- The message of a report that has none of its own. -/
def defaultMessage : ErrorKind → String
  | .internal => "internal error"
  | .usage => "usage error"
  | .notFound => "not found"
  | .badInput => "bad input"
  | .io => "i/o error"

/-- The exit code of a command that ends with a failure. -/
def exitCode : ErrorKind → Nat
  | .internal => 1
  | .usage => 2
  | .notFound => 3
  | .badInput => 4
  | .io => 5

end ErrorKind

/-- A report of a failure. `origin` holds the texts of its causes, the nearest first, where a cause
was stated; otherwise a failure to decode is its cause. -/
structure Error where
  kind : ErrorKind
  message : Option String := none
  parameter : Option String := none
  index : Option Nat := none
  hint : Option String := none
  decode : Option DecodeFailure := none
  origin : List String := []
  deriving DecidableEq

namespace Error

def badInput (message : String) : Error := { kind := .badInput, message := some message }

def ofDecode (d : DecodeFailure) : Error :=
  { kind := .badInput, message := some d.text, parameter := some d.parameter, decode := some d }

def withIndex (e : Error) (index : Nat) : Error := { e with index := some index }

/-- The same report about a place in the stream, unless it is already about one. -/
def withIndexIfNone (e : Error) (index : Nat) : Error :=
  if e.index.isNone then e.withIndex index else e

def withHint (e : Error) (hint : String) : Error := { e with hint := some hint }

def summary (e : Error) : String :=
  e.kind.name ++ (e.message.elim "" fun m => ": " ++ m) ++
    (e.index.elim "" fun i => " (index: " ++ toString i ++ ")")

/-- The texts of the causes, the nearest first. -/
def causes (e : Error) : List String :=
  if e.origin.isEmpty then (e.decode.map DecodeFailure.text).toList else e.origin

def withSource (e : Error) (source : Error) : Error :=
  { e with origin := source.summary :: source.causes }

/-- The message, or that of the kind. -/
def messageText (e : Error) : String := e.message.getD e.kind.defaultMessage

def body (e : Error) : Json :=
  .ofPresent [("kind", some (.string e.kind.name)), ("message", some (.string e.messageText)),
    ("parameter", e.parameter.map .string), ("hint", e.hint.map .string)]

def report (e : Error) : Json :=
  .ofMembers [("error",
    .ofPresent [("kind", some (.string e.kind.name)), ("message", some (.string e.messageText)),
      ("hint", e.hint.map .string), ("parameter", e.parameter.map .string),
      ("index", e.index.map fun i => .integer i),
      ("causes", if e.causes.isEmpty then none else some (.array (e.causes.map .string)))])]

end Error

end Intake
