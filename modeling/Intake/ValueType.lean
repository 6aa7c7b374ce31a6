import Intake.Json.Found
import Intake.Json.Reader

/-!
# Value types

A handler may ask for a parameter as a value of a certain type. The value is then converted: most
types only check it, floating-point types also turn integers into floating-point numbers. What does
not fit is objected to with the first part at fault.
-/

namespace Intake

inductive ValueType where
  | any
  | text
  | truth
  /-- The integers from `low` to `high`. -/
  | integer (title : String) (low high : Int)
  | float
  | character
  /-- Null alone. -/
  | unit
  /-- Null or a value of a type. -/
  | optional (type : ValueType)
  | list (type : ValueType)
  | pair (first second : ValueType)
  /-- An object whose members all have a type. -/
  | map (type : ValueType)

namespace ValueType

def signed (width : Nat) : ValueType :=
  let half : Int := (1 <<< (width - 1) : Nat)
  .integer ("i" ++ toString width) (-half) (half - 1)

def unsigned (width : Nat) : ValueType :=
  .integer ("u" ++ toString width) 0 ((1 <<< width : Nat) - 1)

/-- What is said of a value that does not have the expected type. -/
def mistyped (expected : String) (v : Json) : Except String Json :=
  .error (Json.wrongType v.found expected)

def convertAll (convert : Json → Except String Json) : List Json → Except String (List Json)
  | [] => .ok []
  | v :: rest => do
      let first ← convert v
      let others ← convertAll convert rest
      .ok (first :: others)

def convertMembers (convert : Json → Except String Json) :
    Dictionary Json → Except String (Dictionary Json)
  | [] => .ok []
  | (key, v) :: rest => do
      let first ← convert v
      let others ← convertMembers convert rest
      .ok ((key, first) :: others)

/-- The value as one of the type, or what is wrong with it. -/
def convert : ValueType → Json → Except String Json
  | .any, v => .ok v
  | .text, .string s => .ok (.string s)
  | .text, v => mistyped "a string" v
  | .truth, .bool b => .ok (.bool b)
  | .truth, v => mistyped "a boolean" v
  | .integer title low high, .integer i =>
      if low ≤ i ∧ i ≤ high then .ok (.integer i)
      else .error ("invalid value: " ++ (Json.integer i).found ++ ", expected " ++ title)
  | .integer title _ _, v => mistyped title v
  | .float, .float x => .ok (.float x)
  | .float, .integer i =>
      match Json.Double.ofInt? i with
      | some x => .ok (.float x)
      | none => mistyped "f64" (.integer i)
  | .float, v => mistyped "f64" v
  | .character, .string s =>
      if s.length = 1 then .ok (.string s)
      else .error ("invalid value: " ++ (Json.string s).found ++ ", expected a character")
  | .character, v => mistyped "a character" v
  | .unit, .null => .ok .null
  | .unit, v => mistyped "unit" v
  | .optional _, .null => .ok .null
  | .optional type, v => type.convert v
  | .list type, .array items => (convertAll type.convert items).map .array
  | .list _, v => mistyped "a sequence" v
  | .pair _ _, .array [] => .error "invalid length 0, expected a tuple of size 2"
  | .pair first _, .array [a] => do
      let _ ← first.convert a
      .error "invalid length 1, expected a tuple of size 2"
  | .pair first second, .array (a :: b :: rest) => do
      let x ← first.convert a
      let y ← second.convert b
      if rest.isEmpty then .ok (.array [x, y])
      else .error ("invalid length " ++ toString (rest.length + 2) ++
        ", expected fewer elements in array")
  | .pair _ _, v => mistyped "a tuple of size 2" v
  | .map type, .object members => (convertMembers type.convert members).map .object
  | .map _, v => mistyped "a map" v

end ValueType

end Intake
