import Intake.Error
import Intake.Parameter
import Intake.Table

/-!
# Constancy

A constant parameter keeps its first value other than null for the rest of a stream. Each request of
the stream is a step. What a step fixes counts only when the next step begins, and only if the step
did not fail; otherwise the stream goes back to what was fixed before it.
-/

namespace Intake

namespace Constancy

/-- The value that an id was fixed to by earlier steps, and the one that the current step must
match. -/
structure Record where
  backup : Option Json := none
  last : Option Json := none

/-- The record after a step that succeeded or failed. -/
def Record.fold (failed : Bool) (r : Record) : Record :=
  if failed then { r with last := r.backup } else { r with backup := r.last }

end Constancy

/-- What a stream remembers of its constant parameters. -/
structure Constancy where
  records : Table ParameterId Constancy.Record := []
  /-- Whether the current step has failed. -/
  failed : Bool := false
  /-- How many steps have begun. -/
  steps : Nat := 0

namespace Constancy

/-- The record of an id; one that was never seen is empty. -/
def record (c : Constancy) (id : ParameterId) : Record := (c.records.get? id).getD {}

/-- Ends the current step. -/
def fold (c : Constancy) : Constancy :=
  { c with records := c.records.mapValues (Record.fold c.failed), failed := false }

/-- Begins the next step, ending the one before it. -/
def begin (c : Constancy) : Constancy :=
  let c := if 0 < c.steps then c.fold else c
  { c with steps := c.steps + 1 }

def fail (c : Constancy) : Constancy := { c with failed := true }

/-- The report of a constant parameter with a second value. -/
def violation (p : Parameter) (fixed received : Json) : Error :=
  { kind := .badInput
    message := some ("constant parameter '" ++ p.name ++ "' changed value")
    parameter := some p.name
    hint := some ("The value was fixed to " ++ fixed.compact ++
      " earlier in this stream; received " ++ received.compact ++ ".") }

/-- Holds a value against what its id is fixed to, and fixes it if there is nothing yet. Variable
parameters and null are free. -/
def check (c : Constancy) (p : Parameter) (value : Json) : Except Error Constancy :=
  if !p.isConstant || value.isNull then .ok c
  else
    let r := c.record p.id
    match r.last with
    | none => .ok { c with records := c.records.put p.id { r with last := some value } }
    | some fixed => if fixed == value then .ok c else .error (violation p fixed value)

/-- Passes on what a retrieval came to, unless it breaks constancy. Every failure fails the step. -/
def observe (c : Constancy) (p : Parameter) (result : Except Error Json) :
    Except Error Json × Constancy :=
  match result with
  | .error e => (.error e, c.fail)
  | .ok value =>
      match c.check p value with
      | .ok c => (.ok value, c)
      | .error e => (.error e, c.fail)

end Constancy

end Intake
