import Intake.Dictionary
import Intake.Json.Double

/-!
# JSON values

A value is a tree of null, booleans, integers, double-precision numbers, strings, arrays and
objects. Integers and floating-point numbers are kept apart, so `1` and `1.0` are two values. The
members of an object are held in the increasing order of their keys, which `ofMembers`
establishes; a document with an order of its own for its fields builds `object` directly.
-/

namespace Intake

/-- A JSON value. -/
inductive Json where
  | null
  | bool (b : Bool)
  | integer (i : Int)
  | float (x : Json.Double)
  | string (s : String)
  | array (items : List Json)
  | object (members : List (String × Json))
  deriving Inhabited

namespace Json

/-! ## Equality

Floating-point numbers are compared as numbers, all else by its parts. An integer is never equal to
a floating-point number. -/

mutual
def same : Json → Json → Bool
  | .null, .null => true
  | .bool a, .bool b => a == b
  | .integer i, .integer j => i == j
  | .float x, .float y => x == y
  | .string s, .string t => s == t
  | .array xs, .array ys => sameItems xs ys
  | .object xs, .object ys => sameMembers xs ys
  | _, _ => false

/-- Equality of arrays, place by place. -/
def sameItems : List Json → List Json → Bool
  | [], [] => true
  | x :: xs, y :: ys => same x y && sameItems xs ys
  | _, _ => false

/-- Equality of objects, member by member. -/
def sameMembers : List (String × Json) → List (String × Json) → Bool
  | [], [] => true
  | (k, x) :: xs, (l, y) :: ys => k == l && same x y && sameMembers xs ys
  | _, _ => false
end

instance : BEq Json := ⟨same⟩

def isNull : Json → Bool
  | .null => true
  | _ => false

/-! ## Objects -/

/-- The object with the given members; of several with one key the last counts. -/
def ofMembers (members : List (String × Json)) : Json := .object (Dictionary.ofList members)

def ofPresent (members : List (String × Option Json)) : Json :=
  .ofMembers (members.filterMap fun m => m.2.map fun v => (m.1, v))

/-! ## Shapes -/

/-- The word by which reports call the shape of a value. -/
def shape : Json → String
  | .null => "null"
  | .bool _ => "boolean"
  | .integer _ => "integer"
  | .float _ => "number"
  | .string _ => "string"
  | .array _ => "array"
  | .object _ => "object"

end Json

end Intake
