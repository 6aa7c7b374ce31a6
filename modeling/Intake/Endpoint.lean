import Intake.Error
import Intake.Parameter
import Intake.Text.Blank

/-!
# Endpoints

An endpoint is a name, a communication pattern and a list of parameters. Its name and the names of
its parameters are not blank, and no two parameters share a name or an id. Main statement:
`make` builds an endpoint exactly from what is so formed, and otherwise names the first fault.
-/

namespace Intake

/-! ## Communication patterns -/

/-- How many requests and answers one interaction has. -/
inductive Pattern where
  | requestResponse
  | clientStream
  | serviceStream
  | bidirectional
  deriving DecidableEq

instance : Worded Pattern where
  all := [.requestResponse, .clientStream, .serviceStream, .bidirectional]
  word
    | .requestResponse => "request-response"
    | .clientStream => "client-stream"
    | .serviceStream => "service-stream"
    | .bidirectional => "bidirectional"

/-- Whether a stream may hold more than one request. -/
def Pattern.acceptsMany : Pattern → Bool
  | .clientStream => true
  | .bidirectional => true
  | .requestResponse => false
  | .serviceStream => false

namespace Endpoint

/-! ## Well-formed endpoints -/

/-- What a name and a list of parameters must satisfy to make an endpoint. -/
structure WellFormed (name : String) (parameters : List Parameter) : Prop where
  name_not_blank : Text.isBlank name = false
  parameter_not_blank : ∀ p ∈ parameters, Text.isBlank p.name = false
  names_distinct : (parameters.map Parameter.name).Nodup
  ids_distinct : (parameters.map Parameter.id).Nodup

/-- What can be wrong with a name and a list of parameters. -/
inductive Fault where
  | blankName
  | blankParameter (place : Nat)
  | repeatedName (name : String)
  | repeatedId (id : ParameterId) (name : String)
  deriving DecidableEq

/-- The report of a fault. Ids are not chosen by users, so repeating one is no fault of theirs. -/
def Fault.error : Fault → Error
  | .blankName => { kind := .usage, message := some "endpoint name must not be empty" }
  | .blankParameter place =>
      { kind := .usage, message := some ("parameter #" ++ toString place ++ " has an empty name") }
  | .repeatedName name =>
      { kind := .usage, message := some ("duplicate parameter name '" ++ name ++ "'")
        parameter := some name }
  | .repeatedId id name =>
      { kind := .internal, message := some ("duplicate parameter id " ++ id.text)
        parameter := some name }

/-- The first fault in a list of parameters that comes after `earlier` ones. -/
def parameterFault (earlier : List Parameter) : List Parameter → Option Fault
  | [] => none
  | p :: rest =>
      if Text.isBlank p.name then some (.blankParameter earlier.length)
      else if p.name ∈ earlier.map Parameter.name then some (.repeatedName p.name)
      else if p.id ∈ earlier.map Parameter.id then some (.repeatedId p.id p.name)
      else parameterFault (earlier ++ [p]) rest

/-- The first fault in a name and a list of parameters. -/
def fault? (name : String) (parameters : List Parameter) : Option Fault :=
  if Text.isBlank name then some .blankName else parameterFault [] parameters

theorem parameterFault_eq_none_iff (earlier parameters : List Parameter) :
    parameterFault earlier parameters = none ↔
      (∀ p ∈ parameters, Text.isBlank p.name = false) ∧
        (parameters.map Parameter.name).Nodup ∧ (parameters.map Parameter.id).Nodup ∧
        (∀ p ∈ parameters, p.name ∉ earlier.map Parameter.name) ∧
        (∀ p ∈ parameters, p.id ∉ earlier.map Parameter.id) := by
  induction parameters generalizing earlier with
  | nil => simp [parameterFault]
  | cons p rest ih =>
      simp only [parameterFault]
      split
      · simp_all
      · split
        · rename_i h
          simp only [reduceCtorEq, false_iff]
          rintro ⟨_, _, _, h4, _⟩
          exact h4 p List.mem_cons_self h
        · split
          · rename_i h
            simp only [reduceCtorEq, false_iff]
            rintro ⟨_, _, _, _, h5⟩
            exact h5 p List.mem_cons_self h
          · rw [ih]
            simp only [List.map_append, List.map_cons, List.map_nil, List.mem_append,
              List.mem_singleton, List.forall_mem_cons, List.nodup_cons, not_or, List.mem_map,
              not_exists, not_and] at *
            constructor
            · rintro ⟨h1, h2, h3, h4, h5⟩
              refine ⟨⟨by simp_all, h1⟩, ⟨fun q hq => (h4 q hq).2, h2⟩,
                ⟨fun q hq => (h5 q hq).2, h3⟩, ⟨by assumption, fun q hq => (h4 q hq).1⟩,
                by assumption, fun q hq => (h5 q hq).1⟩
            · rintro ⟨⟨_, h1⟩, ⟨hn, h2⟩, ⟨hi, h3⟩, ⟨_, h4⟩, _, h5⟩
              exact ⟨h1, h2, h3, fun q hq => ⟨h4 q hq, hn q hq⟩, fun q hq => ⟨h5 q hq, hi q hq⟩⟩

theorem fault?_eq_none_iff (name : String) (parameters : List Parameter) :
    fault? name parameters = none ↔ WellFormed name parameters := by
  simp only [fault?]
  split
  · rename_i h
    simp only [reduceCtorEq, false_iff]
    intro w
    simp [w.name_not_blank] at h
  · rename_i h
    rw [parameterFault_eq_none_iff]
    constructor
    · rintro ⟨h1, h2, h3, _, _⟩
      exact ⟨by simpa using h, h1, h2, h3⟩
    · intro w
      exact ⟨w.parameter_not_blank, w.names_distinct, w.ids_distinct, by simp, by simp⟩

end Endpoint

/-! ## Endpoints -/

structure Endpoint where
  name : String
  pattern : Pattern
  parameters : List Parameter
  wellFormed : Endpoint.WellFormed name parameters

namespace Endpoint

/-- The endpoint of the given parts, or the first fault in them. -/
def make (name : String) (pattern : Pattern) (parameters : List Parameter) :
    Except Fault Endpoint :=
  match h : fault? name parameters with
  | some fault => .error fault
  | none => .ok ⟨name, pattern, parameters, (fault?_eq_none_iff name parameters).mp h⟩

def parameter? (e : Endpoint) (id : ParameterId) : Option Parameter :=
  e.parameters.find? (·.id = id)

def named? (e : Endpoint) (name : String) : Option Parameter :=
  e.parameters.find? (·.name = name)

/-- The report of a name that no parameter has. -/
def undeclared (e : Endpoint) (name : String) : Error :=
  { kind := .notFound
    message := some ("endpoint '" ++ e.name ++ "' declares no parameter '" ++ name ++ "'")
    parameter := some name }

def handle (e : Endpoint) (name : String) : Except Error Parameter :=
  match e.named? name with
  | some p => .ok p
  | none => .error (e.undeclared name)

def summary (e : Endpoint) : String := e.name ++ " [" ++ Worded.word e.pattern ++ "]"

/-- How an endpoint is shown. A default that generates its values shows the first one. -/
def toJson (e : Endpoint) : Json :=
  .ofMembers [("name", .string e.name), ("pattern", .string (Worded.word e.pattern)),
    ("parameters", .array (e.parameters.map fun p =>
      Json.ofPresent [("id", some (.string p.id.text)), ("name", some (.string p.name)),
        ("kind", some (.string (Worded.word p.kind))),
        ("necessity", some (.string (Worded.word p.necessity))),
        ("mutability", some (.string (Worded.word p.mutability))),
        ("default", p.default.map (·.supply 0))]))]

end Endpoint

end Intake
