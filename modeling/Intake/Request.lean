import Intake.Error
import Intake.Json.Reader
import Intake.Metadata
import Intake.Parameter

/-!
# Requests

A raw request can be asked for the value of a parameter any number of times, and may answer
differently each time: its answer depends on what it was asked before. The usual raw request holds a
JSON object and looks parameters up in it by name.
-/

namespace Intake

/-- A request that was not validated yet. `answer` is told what was asked before, latest first. -/
structure RawRequest where
  metadata : Metadata
  answer : List Parameter → Parameter → Except DecodeFailure Json

/-- A raw request whose answer depends on how often the same id was asked for before. -/
def RawRequest.ofScript (metadata : Metadata)
    (script : Parameter → Nat → Except DecodeFailure Json) : RawRequest where
  metadata := metadata
  answer earlier p := script p (earlier.countP (·.id = p.id))

/-! ## Requests with a JSON body -/

structure JsonRequest where
  body : Dictionary Json
  metadata : Metadata := {}

namespace JsonRequest

/-- The request of a document, which must be an object. -/
def ofJson : Json → Except Error JsonRequest
  | .object body => .ok { body }
  | other => .error (.badInput ("request body must be an object, found " ++ other.shape))

/-- The report of a text that is no JSON; `cause` says what is wrong with it. -/
def unreadable (cause : String) : Error :=
  { Error.badInput ("request body is not valid JSON: " ++ cause) with origin := [cause] }

def parse (text : String) : Except Error JsonRequest :=
  match Json.parse text with
  | .error flaw => .error (unreadable (flaw.report text))
  | .ok document => ofJson document

/-- The value of a parameter in an object: null is no value, and the kind must accept the rest. -/
def lookup (body : Dictionary Json) (p : Parameter) : Except DecodeFailure Json :=
  match body.get? p.name with
  | none => .error (.noEntry p.name)
  | some .null => .error (.noValue p.name)
  | some v =>
      if p.kind.accepts v then .ok v
      else .error (.malformed p.name
        ("expected " ++ Worded.word p.kind ++ ", found " ++ v.shape))

/-- The request as a raw one; it answers every time the same. -/
def raw (r : JsonRequest) : RawRequest := .ofScript r.metadata fun p _ => lookup r.body p

end JsonRequest

end Intake
