import Intake.Dictionary
import Intake.SocketAddress

/-!
# Request metadata

What is known about where a request came from. It goes through every stage of validation
untouched.
-/

namespace Intake

/-- Where a request came from. -/
structure Metadata where
  remote : Option SocketAddress := none
  information : Dictionary String := []
  description : String := ""

def Metadata.withInformation (m : Metadata) (key value : String) : Metadata :=
  { m with information := m.information.insert key value }

end Intake
