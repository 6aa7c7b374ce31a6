import Intake.Json.Basic

/-!
# Parameters

A parameter is known to an endpoint by a unique id and to requests by its name. Its kind limits the
shape of values, its necessity says whether a request must supply it, its mutability whether all
requests of one stream must agree on it, and a default stands in where a required parameter is
absent.
-/

namespace Intake

/-- Words that stand for the values of a small type. -/
class Worded (α : Type) where
  all : List α
  word : α → String

def Worded.ofWord? {α : Type} [Worded α] (w : String) : Option α :=
  (Worded.all : List α).find? (fun a => Worded.word a == w)

/-! ## Ids -/

/-- The identity of a parameter: 128 bits. -/
structure ParameterId where
  bits : BitVec 128
  deriving DecidableEq

/-- An id in hexadecimal, always with 32 digits. -/
def ParameterId.text (id : ParameterId) : String :=
  let digits := Nat.toDigits 16 id.bits.toNat
  String.ofList (List.replicate (32 - digits.length) '0' ++ digits)

/-! ## Kinds -/

/-- The shapes of value that a parameter may ask for. -/
inductive Kind where
  | string
  | integer
  | number
  | boolean
  | array
  | object
  | any
  deriving DecidableEq

instance : Worded Kind where
  all := [.string, .integer, .number, .boolean, .array, .object, .any]
  word
    | .string => "string"
    | .integer => "integer"
    | .number => "number"
    | .boolean => "boolean"
    | .array => "array"
    | .object => "object"
    | .any => "any"

/-- Whether a value has the shape of a kind. Null has that of no kind but `any`; integers are
numbers, floating-point numbers are not integers. -/
def Kind.accepts : Kind → Json → Bool
  | .any, _ => true
  | .string, .string _ => true
  | .integer, .integer _ => true
  | .number, .integer _ => true
  | .number, .float _ => true
  | .boolean, .bool _ => true
  | .array, .array _ => true
  | .object, .object _ => true
  | _, _ => false

/-! ## Necessity and mutability -/

/-- Whether a request must supply a parameter. -/
inductive Necessity where
  | required
  | optional
  deriving DecidableEq

instance : Worded Necessity where
  all := [.required, .optional]
  word
    | .required => "required"
    | .optional => "optional"

/-- Whether a parameter may change its value within one stream. -/
inductive Mutability where
  | constant
  | variable
  deriving DecidableEq

instance : Worded Mutability where
  all := [.constant, .variable]
  word
    | .constant => "constant"
    | .variable => "variable"

/-! ## Defaults -/

/-- What stands in for an absent parameter: one value, or a value that depends on how many the
default has given before. -/
inductive Default where
  | fixed (value : Json)
  | generated (values : Nat → Json)

/-- The value that a default gives after having given `earlier` ones. -/
def Default.supply (d : Default) (earlier : Nat) : Json :=
  match d with
  | .fixed value => value
  | .generated values => values earlier

/-! ## Parameters -/

structure Parameter where
  id : ParameterId
  name : String
  kind : Kind := .any
  necessity : Necessity := .required
  mutability : Mutability := .variable
  default : Option Default := none

namespace Parameter

def isRequired (p : Parameter) : Bool := p.necessity = .required

/-- A parameter on which all requests of a stream must agree. -/
def isConstant (p : Parameter) : Bool := p.mutability = .constant

def summary (p : Parameter) : String :=
  p.name ++ ": " ++ Worded.word p.kind ++ " (" ++ Worded.word p.necessity ++ ", " ++
    Worded.word p.mutability ++ ")"

end Parameter

end Intake
