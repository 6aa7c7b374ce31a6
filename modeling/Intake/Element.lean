import Intake.AccessLog
import Intake.Constancy
import Intake.Substitution
import Intake.ValueType

/-!
# Stream elements

An element is one request of a stream while a handler reads from it. A value goes through the cache,
substitution and the check for constancy, in this order. Each reading may fail; every failure fails
the step of the stream, and most are reported: each failing retrieval by itself, a failing reading
of all parameters once.
-/

namespace Intake

/-- A request of a stream under evaluation. -/
structure Element where
  endpoint : Endpoint
  /-- The place in the stream, from 0. -/
  index : Nat
  request : Substituted Cached
  constancy : Constancy
  log : AccessLog := []
  /-- The failures reported so far, in order. -/
  reported : List Error := []

namespace Element

/-- What is known about where the request came from. -/
def metadata (x : Element) : Metadata := Decoder.metadata x.request.inner

/-- What the raw request was asked, latest first. -/
def asked (x : Element) : List Parameter := x.request.inner.exchange.asked

def logMetadata (x : Element) : Json := x.log.metadata x.endpoint x.metadata

def report (x : Element) (e : Error) : Element := { x with reported := x.reported ++ [e] }

/-- Whether a failure was reported. -/
def isReported (x : Element) : Bool := !x.reported.isEmpty

/-- Lets the step of the stream fail. -/
def noteFailure (x : Element) : Element := { x with constancy := x.constancy.fail }

/-- Gives the element up: nothing that it fixed will count. -/
def abandon (x : Element) : Element := { x with constancy := x.constancy.fail }

/-- Retrieves a parameter and logs its value; a failure is about this place in the stream. -/
def fetch (x : Element) (p : Parameter) : Except Error Json × Element :=
  let (result, request) := x.request.retrieve x.endpoint p
  let (result, constancy) := x.constancy.observe p result
  match result with
  | .ok v => (.ok v, { x with request, constancy, log := x.log.record p.name v })
  | .error e => (.error (e.withIndex x.index), { x with request, constancy })

def retrieve (x : Element) (p : Parameter) : Except Error Json × Element :=
  match x.fetch p with
  | (.ok v, x) => (.ok v, x)
  | (.error e, x) => (.error e, x.report e)

/-- Retrieves the declared parameter with a name. An undeclared name fails without a report. -/
def retrieveNamed (x : Element) (name : String) : Except Error Json × Element :=
  match x.endpoint.named? name with
  | some p => x.retrieve p
  | none => (.error ((x.endpoint.undeclared name).withIndex x.index), x)

/-- Retrieves a parameter and converts its value. A failing conversion fails the step and is left to
others to report. -/
def retrieveAs (x : Element) (p : Parameter) (convert : Json → Except String Json) :
    Except Error Json × Element :=
  match x.retrieve p with
  | (.error e, x) => (.error e, x)
  | (.ok v, x) =>
      match convert v with
      | .ok typed => (.ok typed, x)
      | .error reason => (.error (.ofDecode (.malformed p.name reason)), x.noteFailure)

/-- Retrieves the declared parameter with a name as a value of a type. -/
def retrieveTyped (x : Element) (name : String) (type : ValueType) :
    Except Error Json × Element :=
  match x.endpoint.handle name with
  | .error e => (.error e, x)
  | .ok p => x.retrieveAs p type.convert

/-! ## All parameters -/

/-- What came of reading several parameters: the values by name, and of either sort of failure the
first. -/
structure Findings where
  values : Dictionary Json := []
  violation : Option Error := none
  shortfall : Option Error := none

/-- Adds what came of one more parameter. A failure that carries a failure to decode is a shortfall,
any other a violation. -/
def Findings.add (f : Findings) (name : String) : Except Error Json → Findings
  | .ok v => { f with values := f.values.insert name v }
  | .error e =>
      if e.decode.isSome then { f with shortfall := f.shortfall.or (some e) }
      else { f with violation := f.violation.or (some e) }

/-- The values, or the failure that counts: violations come before shortfalls. -/
def Findings.verdict (f : Findings) : Except Error (Dictionary Json) :=
  match f.violation.or f.shortfall with
  | some e => .error e
  | none => .ok f.values

/-- Reads parameters one after the other, whatever fails. -/
def fetchAll (f : Findings) (x : Element) : List Parameter → Findings × Element
  | [] => (f, x)
  | p :: rest =>
      let (result, x) := x.fetch p
      fetchAll (f.add p.name result) x rest

/-- Retrieves all declared parameters in their order and reports the failure that counts. -/
def resolveAll (x : Element) : Except Error (Dictionary Json) × Element :=
  let (findings, x) := fetchAll {} x x.endpoint.parameters
  match findings.verdict with
  | .ok values => (.ok values, x)
  | .error e => (.error e, x.report e)

end Element

end Intake
