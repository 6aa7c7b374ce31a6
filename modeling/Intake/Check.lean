import Intake.Notice
import Intake.Request.Lines
import Intake.ResultLine
import Intake.Stream

/-!
# Checks

A check runs requests through one stream of an endpoint and resolves all parameters of each. It
yields a result line for every request and a notice for every rejected one, and counts the rejected
ones for its exit code.
-/

namespace Intake

/-- What a check yields, in the order of the requests. -/
structure Check where
  lines : List Json := []
  notices : List Notice := []
  /-- How many requests were rejected. -/
  rejected : Nat := 0

namespace Check

def notice (e : Endpoint) (time : String) (rejection : Error) : Notice where
  kind := "rejected"
  time := time
  cmd := "check"
  endpoint := e.name
  message := rejection.messageText
  details := Dictionary.ofList
    ((rejection.index.map fun i => ("index", Json.integer i)).toList ++
      (rejection.parameter.map fun p => ("parameter", Json.string p)).toList)

/-- Puts the result of the request at a place before what the later requests yield. -/
def add (e : Endpoint) (time : String) (index : Nat) (later : Check) :
    Except Error (Dictionary Json) → Check
  | .ok values => { later with lines := ResultLine.accepted index values :: later.lines }
  | .error rejection =>
      { lines := ResultLine.rejected (some index) rejection :: later.lines
        notices := notice e time rejection :: later.notices
        rejected := later.rejected + 1 }

/-- What results yield of which the first has the given place. -/
def ofResults (e : Endpoint) (time : String) (index : Nat) :
    List (Except Error (Dictionary Json)) → Check
  | [] => {}
  | result :: rest => add e time index (ofResults e time (index + 1) rest) result

/-- The results of resolving all parameters of each request of one stream. -/
def results (e : Endpoint) (requests : List JsonRequest) : List (Except Error (Dictionary Json)) :=
  (Stream.evaluateAll { endpoint := e } Element.resolveAll (requests.map JsonRequest.raw)).map
    Evaluation.result

def run (e : Endpoint) (time : String) (requests : List JsonRequest) : Check :=
  ofResults e time 0 (results e requests)

/-- The exit code of a check: that of rejected input if there was a rejection. -/
def exitCode (c : Check) : Nat := if c.rejected = 0 then 0 else ErrorKind.badInput.exitCode

end Check

end Intake
