import Intake.Service
import Intake.Text.Quoted

/-!
# Inspection

How the parts of an endpoint and the states of a service show themselves for debugging.
-/

namespace Intake.Inspect

/-- A record with its fields; `more` if there are fields that are not shown. -/
def record (title : String) (fields : List (String × String)) (more : Bool) : String :=
  title ++ " \x7b " ++ ", ".intercalate (fields.map fun f => f.1 ++ ": " ++ f.2) ++
    (if more then ", .. \x7d" else " \x7d")

def wrapped (title content : String) : String := title ++ "(" ++ content ++ ")"

def capitalized {α : Type} [Worded α] (a : α) : String := (Worded.word a).capitalize

/-- A parameter; of its default only the presence shows. -/
def parameter (p : Parameter) : String :=
  record "ParameterDescriptor"
    [("id", wrapped "ParameterId" p.id.text), ("name", Text.quote p.name),
      ("kind", capitalized p.kind), ("necessity", capitalized p.necessity),
      ("mutability", capitalized p.mutability),
      ("default", if p.default.isSome then "Some(DefaultValue(..))" else "None")] false

def handle (p : Parameter) : String := wrapped "Parameter" (parameter p)

def element (x : Element) : String :=
  record "ValidatedRequest"
    [("endpoint", Text.quote x.endpoint.name), ("index", toString x.index)] true

def stream (s : Stream) : String :=
  record "StreamReducer"
    [("endpoint", Text.quote s.endpoint.name), ("received", toString s.received)] true

def service (v : Service) : String :=
  record "ValidationService"
    [("endpoint", Text.quote v.endpoint.name), ("channel_capacity", toString v.capacity)] true

end Intake.Inspect
