import Intake.Error

/-!
# Result lines

Each request of a stream is answered by one line, which says whether the request was accepted, at
which place of the stream it stands, and the values of its parameters or why it was rejected.
-/

namespace Intake.ResultLine

def accepted (index : Nat) (values : Dictionary Json) : Json :=
  .ofMembers [("index", .integer index), ("ok", .bool true), ("parameters", .object values)]

def rejected (index : Option Nat) (e : Error) : Json :=
  .ofMembers [("index", index.elim .null fun i => .integer i), ("ok", .bool false),
    ("error", e.body)]

end Intake.ResultLine
