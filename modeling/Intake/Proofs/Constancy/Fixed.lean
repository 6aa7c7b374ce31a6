import Intake.Proofs.Constancy.Course
import Intake.Proofs.Json.Equality

/-!
# What the history of a run fixes

The check keeps two values for an id and a flag. Here these are compared with the whole history: the
first value on offer in the earliest step that had one and did not fail is what all later retrievals
of the id are held against.
-/

namespace Intake.Constancy

/-- What steps that are over have fixed an id to. -/
def committed (past : List Trace) (id : ParameterId) : Option Json :=
  past.findSome? fun t => if t.finish.failed then none else accepted t.readings id

/-- What an id is fixed to by steps that are over, or else by the current step so far. -/
def fixed (past : List Trace) (current : List Reading) (id : ParameterId) : Option Json :=
  (committed past id).or (accepted current id)

end Intake.Constancy
