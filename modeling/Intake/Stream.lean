import Intake.Element

/-!
# Streams

A stream validates requests one after the other. Endpoints of a single-request pattern refuse every
request but the first. Evaluation runs a handler on an element; when the handler fails, the element
fails, and its failure is reported unless one of the element was reported already.
-/

namespace Intake

/-- The state of a stream between two requests. `supplied` lists the ids whose defaults have given a
value. -/
structure Stream where
  endpoint : Endpoint
  constancy : Constancy := {}
  /-- How many requests have come, refused ones included. -/
  received : Nat := 0
  supplied : List ParameterId := []

/-- What reads from an element and comes to a result. -/
abbrev Handler (α : Type) := Element → Except Error α × Element

/-- A handler whose failure is one of the element at a place in the stream: the step fails, and the
failure is reported unless one of the element was. -/
def Handler.settled {α : Type} (handler : Handler α) (index : Nat) : Handler α := fun x =>
  match handler x with
  | (.ok a, x) => (.ok a, x)
  | (.error e, x) =>
      let e := e.withIndexIfNone index
      let x := x.noteFailure
      (.error e, if x.isReported then x else x.report e)

/-- What the evaluation of a request came to. A refused request was no element. -/
structure Evaluation (α : Type) where
  result : Except Error α
  element : Option Element
  stream : Stream

/-- The failures that were reported, in order: a refusal, or those of the element. -/
def Evaluation.reported {α : Type} (v : Evaluation α) : List Error :=
  match v.element, v.result with
  | some x, _ => x.reported
  | none, .error e => [e]
  | none, .ok _ => []

namespace Stream

/-- The report of a request that a stream does not take. -/
def refusal (s : Stream) : Error :=
  { kind := .usage
    message := some (Worded.word s.endpoint.pattern ++ " endpoint '" ++ s.endpoint.name ++
      "' accepts a single request per stream")
    index := some s.received
    hint := some "Open a new stream for each request." }

/-- Whether a stream takes another request. -/
def isOpen (s : Stream) : Bool := s.received = 0 || s.endpoint.pattern.acceptsMany

/-- The element of a request, as the next step of the stream. -/
def element (s : Stream) (raw : RawRequest) : Element where
  endpoint := s.endpoint
  index := s.received
  request := { inner := ⟨⟨raw, []⟩, []⟩, supplied := s.supplied }
  constancy := s.constancy.begin

/-- Takes the next request. A refused one counts too. -/
def next (s : Stream) (raw : RawRequest) : Except Error Element × Stream :=
  (if s.isOpen then .ok (s.element raw) else .error s.refusal,
    { s with received := s.received + 1 })

/-- The stream after an element. -/
def leave (s : Stream) (x : Element) : Stream :=
  { s with constancy := x.constancy, supplied := x.request.supplied }

/-- Takes the next request and lets a handler at it, whose result has no further consequence. -/
def visit {α : Type} (s : Stream) (raw : RawRequest) (handler : Handler α) : Evaluation α :=
  match s.next raw with
  | (.error e, after) => ⟨.error e, none, after⟩
  | (.ok x, after) =>
      let (result, x) := handler x
      ⟨result, some x, after.leave x⟩

/-- Takes the next request and runs a handler on it, whose failure is one of the element. -/
def evaluate {α : Type} (s : Stream) (raw : RawRequest) (handler : Handler α) : Evaluation α :=
  s.visit raw (handler.settled s.received)

/-- Evaluates requests one after the other with the same handler. -/
def evaluateAll {α : Type} (s : Stream) (handler : Handler α) :
    List RawRequest → List (Evaluation α)
  | [] => []
  | raw :: rest =>
      let v := s.evaluate raw handler
      v :: v.stream.evaluateAll handler rest

end Stream

end Intake
