import Intake.Endpoint

/-!
# Endpoint descriptions

A description says in JSON what an endpoint is. It becomes an endpoint when every default has the
shape that its parameter asks for and the parts are well formed; parameters get ids from outside.
Wrong defaults are found before any other fault.
-/

namespace Intake

structure ParameterDescription where
  name : String
  kind : Kind := .any
  necessity : Necessity := .required
  mutability : Mutability := .variable
  default : Option Json := none

structure Description where
  name : String
  pattern : Pattern := .requestResponse
  parameters : List ParameterDescription := []

namespace ParameterDescription

/-- The document that spells the description of a parameter; no default, no field. -/
def toJson (p : ParameterDescription) : Json :=
  .object ([("name", .string p.name), ("kind", .string (Worded.word p.kind)),
    ("necessity", .string (Worded.word p.necessity)),
    ("mutability", .string (Worded.word p.mutability))]
    ++ (p.default.map fun v => ("default", v)).toList)

end ParameterDescription

namespace Description

/-- The document that spells a description, fields in their fixed order. -/
def toJson (d : Description) : Json :=
  .object [("name", .string d.name), ("pattern", .string (Worded.word d.pattern)),
    ("parameters", .array (d.parameters.map ParameterDescription.toJson))]

/-- Why a description makes no endpoint. -/
inductive Unfit where
  /-- The default of a parameter does not have the shape of its kind. -/
  | wrongDefault (name : String) (found : String) (kind : Kind)
  | endpoint (fault : Endpoint.Fault)

def Unfit.error : Unfit → Error
  | .wrongDefault name found kind =>
      { kind := .usage
        message := some ("default for '" ++ name ++ "' is " ++ found ++ ", expected " ++
          Worded.word kind)
        parameter := some name }
  | .endpoint fault => fault.error

def parameter (id : ParameterId) (p : ParameterDescription) : Except Unfit Parameter :=
  match p.default with
  | none => .ok ⟨id, p.name, p.kind, p.necessity, p.mutability, none⟩
  | some v =>
      if p.kind.accepts v then
        .ok ⟨id, p.name, p.kind, p.necessity, p.mutability, some (.fixed v)⟩
      else .error (.wrongDefault p.name v.shape p.kind)

/-- The parameters of a list of descriptions, which get the ids from `place` on. -/
def parameterList (ids : Nat → ParameterId) (place : Nat) :
    List ParameterDescription → Except Unfit (List Parameter)
  | [] => .ok []
  | p :: rest => do
      let first ← parameter (ids place) p
      let others ← parameterList ids (place + 1) rest
      .ok (first :: others)

/-- The endpoint of a description; the `k`-th parameter gets the `k`-th id. -/
def toEndpoint (d : Description) (ids : Nat → ParameterId) : Except Unfit Endpoint := do
  let parameters ← parameterList ids 0 d.parameters
  match Endpoint.make d.name d.pattern parameters with
  | .ok e => .ok e
  | .error fault => .error (.endpoint fault)

end Description

end Intake
