import Intake.Request.Lines
import Intake.ResultLine
import Intake.Server
import Intake.Service.Channel

/-!
# Answering requests

A server answers three paths. One tells that it is alive, one shows the endpoint, and one takes a
batch of requests, validates it as one stream and answers with a result line for each. The query
behind a path plays no role.
-/

namespace Intake

namespace Server

/-! ## Calls and answers -/

/-- A call of a client. The names of header fields are in lower case. -/
structure Call where
  method : String
  target : String
  fields : List (String × List UInt8)
  body : List UInt8
  remote : SocketAddress

structure Answer where
  status : Nat
  fields : List (String × String) := []
  body : String := ""

inductive Route where
  | health
  | endpoint
  | validate
  deriving DecidableEq

def Route.ofPath? (path : String) : Option Route :=
  if path = "/healthz" then some .health
  else if path = "/v0/endpoint" then some .endpoint
  else if path = "/v0/validate" then some .validate
  else none

def Route.methods : Route → List String
  | .health => ["GET", "HEAD"]
  | .endpoint => ["GET", "HEAD"]
  | .validate => ["POST"]

/-- What stands in a target behind its scheme and its authority, if it starts with these. -/
def behindAuthority? : List Char → Option (List Char)
  | ':' :: '/' :: '/' :: rest => some (rest.dropWhile fun x => !(x == '/' || x == '?' || x == '#'))
  | x :: rest => if x.isAlphanum then behindAuthority? rest else none
  | [] => none

/-- The path that a call is for: its target up to the query or fragment. An authority alone is
followed by the root. -/
def Call.path (c : Call) : String :=
  let isPath (x : Char) : Bool := !(x == '?' || x == '#')
  match behindAuthority? c.target.toList with
  | some target =>
      let path := target.takeWhile isPath
      if path.isEmpty then "/" else String.ofList path
  | none => String.ofList (c.target.toList.takeWhile isPath)

/-! ## Validation -/

/-- Bytes that may be shown: visible ones, spaces and tabs. -/
def isShown (b : UInt8) : Bool := (0x20 ≤ b && b < 0x7F) || b == 0x09

/-- What is known about a call: where it came from and those fields that can be shown. -/
def Call.metadata (c : Call) : Metadata where
  remote := some c.remote
  information := Dictionary.ofList ((c.fields.filter fun f => f.2.all isShown).map fun f =>
    (f.1, String.ofList (f.2.map fun b => Char.ofNat b.toNat)))

/-- Resolves all parameters of an element and tells its place as well. -/
def resolve : Handler (Nat × Dictionary Json) := fun x =>
  match x.resolveAll with
  | (.ok values, after) => (.ok (x.index, values), after)
  | (.error e, after) => (.error e, after)

def line : Except Error (Nat × Dictionary Json) → Json
  | .ok (index, values) => ResultLine.accepted index values
  | .error e => ResultLine.rejected e.index e

def results (s : Server) (requests : List JsonRequest) :
    List (Except Error (Nat × Dictionary Json)) :=
  let start := Channel.start s.service (requests.map JsonRequest.raw) true
  (start.consume resolve).received

/-! ## Answers -/

def versionField : String × String := ("paramflow-version", "0")

def document (status : Nat) (j : Json) : Answer :=
  { status, fields := [("content-type", "application/json"), versionField], body := j.compact }

/-- The answer to a batch that holds something else than requests. -/
def refusal (e : Error) : Answer :=
  let status := match e.kind with
    | .usage => 400
    | .badInput => 400
    | .notFound => 404
    | .io => 500
    | .internal => 500
  document status (.ofMembers [("error", e.body)])

def tooLarge : Answer where
  status := 413
  fields := [("content-type", "text/plain; charset=utf-8")]
  body := "Failed to buffer the request body: length limit exceeded"

def validate (s : Server) (c : Call) : Answer :=
  if s.maxBodyBytes < c.body.length then tooLarge
  else match RequestLines.read "POST /v0/validate" c.metadata c.body with
    | .error e => refusal e
    | .ok requests =>
        { status := 200, fields := [("content-type", "application/jsonl"), versionField]
          body := String.join ((s.results requests).map fun r => (line r).compact ++ "\n") }

def serve (s : Server) (c : Call) : Route → Answer
  | .health => document 200 (.ofMembers [("ok", .bool true)])
  | .endpoint => document 200 s.service.endpoint.toJson
  | .validate => s.validate c

/-- The answer to a call; one that asks for the head alone gets no body. -/
def respond (s : Server) (c : Call) : Answer :=
  match Route.ofPath? c.path with
  | none => { status := 404 }
  | some route =>
      if c.method ∈ route.methods then
        let answer := s.serve c route
        if c.method = "HEAD" then { answer with body := "" } else answer
      else { status := 405, fields := [("allow", ",".intercalate route.methods)] }

end Server

end Intake
