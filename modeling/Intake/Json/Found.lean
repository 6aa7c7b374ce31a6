import Intake.Json.Printer
import Intake.Text.Quoted

/-!
# What was found

Objections to a value of a wrong type name what was found instead: scalars with their text, arrays
and objects by their form alone.
-/

namespace Intake.Json

def ticked (s : String) : String := "`" ++ s ++ "`"

def found : Json → String
  | .null => "null"
  | .bool b => "boolean " ++ ticked (if b then "true" else "false")
  | .integer i => "integer " ++ ticked (integerText i)
  | .float x => "floating point " ++ ticked (floatText x)
  | .string s => "string " ++ Text.quote s
  | .array _ => "sequence"
  | .object _ => "map"

def wrongType (found expected : String) : String :=
  "invalid type: " ++ found ++ ", expected " ++ expected

end Intake.Json
