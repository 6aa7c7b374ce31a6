import Intake.Endpoint
import Intake.Request.Exchange

/-!
# Substitution

What stands in for a parameter that a request does not supply: null for an optional one, its default
for a required one that has a default, and otherwise a rejection. What was substituted once stays
for the rest of the request. Malformed data is never replaced.
-/

namespace Intake

/-- A request with substitutions. `supplied` lists the ids whose defaults gave a value, in this
request and before. -/
structure Substituted (σ : Type) where
  inner : σ
  resolved : Table ParameterId Json := []
  supplied : List ParameterId := []

/-- The report of an id that the endpoint does not declare. -/
def Parameter.undeclared (p : Parameter) : Error :=
  { kind := .internal
    message := some ("parameter '" ++ p.name ++ "' is not declared by this endpoint")
    parameter := some p.name }

def Parameter.missing (p : Parameter) (absence : DecodeFailure) : Error :=
  { kind := .badInput
    message := some ("missing required parameter '" ++ p.name ++ "'")
    parameter := some p.name
    decode := some absence }

namespace Endpoint

/-- The default that may stand in for an id: optional parameters have none. -/
def default? (e : Endpoint) (id : ParameterId) : Option Default :=
  (e.parameter? id).bind fun p => if p.isRequired then p.default else none

/-- What stands in for an absent parameter, and the defaults that have given a value then. -/
def substitute (e : Endpoint) (supplied : List ParameterId) (p : Parameter)
    (absence : DecodeFailure) : Except Error (Json × List ParameterId) :=
  match e.parameter? p.id with
  | none => .error p.undeclared
  | some declared =>
      if declared.isRequired then
        match declared.default with
        | some d => .ok (d.supply (supplied.count p.id), p.id :: supplied)
        | none => .error (declared.missing absence)
      else .ok (.null, supplied)

end Endpoint

/-- The value of a parameter after substitution. -/
def Substituted.retrieve {σ : Type} [Decoder σ] (e : Endpoint) (s : Substituted σ)
    (p : Parameter) : Except Error Json × Substituted σ :=
  match s.resolved.get? p.id with
  | some v => (.ok v, s)
  | none =>
      match Decoder.decode s.inner p with
      | (.ok v, inner) => (.ok v, { s with inner })
      | (.error d, inner) =>
          if d.isAbsence then
            match e.substitute s.supplied p d with
            | .ok (v, supplied) => (.ok v, ⟨inner, s.resolved.put p.id v, supplied⟩)
            | .error err => (.error err, { s with inner })
          else (.error (.ofDecode d), { s with inner })

end Intake
