import Intake.Json.Basic
import Intake.Json.Shortest

/-!
# Writing JSON

The compact form has no space outside strings. The indented form puts every item and member on a
line of its own, two spaces deeper than its container, and leaves empty containers closed up.
Strings escape quotes, backslashes and control characters below U+0020 and keep all else as it is.
Floating-point numbers have the fewest digits that read back and always a point or an exponent.
-/

namespace Intake.Json

/-! ## Strings -/

def escapeChar (c : Char) : List Char :=
  if c == '"' then ['\\', '"']
  else if c == '\\' then ['\\', '\\']
  else if c == '\x08' then ['\\', 'b']
  else if c == '\x0c' then ['\\', 'f']
  else if c == '\n' then ['\\', 'n']
  else if c == '\r' then ['\\', 'r']
  else if c == '\t' then ['\\', 't']
  else if c.toNat < 0x20 then
    ['\\', 'u', '0', '0', Nat.digitChar (c.toNat / 16), Nat.digitChar (c.toNat % 16)]
  else [c]

def quoted (s : String) : String := String.ofList ('"' :: s.toList.flatMap escapeChar ++ ['"'])

/-! ## Numbers -/

/-- The decimal exponents that are written without an exponent. -/
def positional (exponent : Int) : Bool := -5 ≤ exponent && exponent ≤ 15

/-- Digits with the point where the exponent puts it, and at least one digit on either side. -/
def placePoint (d : Double.Decimal) : List Char :=
  if d.exponent < 0 then
    ['0', '.'] ++ List.replicate ((-d.exponent).toNat - 1) '0' ++ d.digits
  else
    let whole := d.exponent.toNat + 1
    let digits := d.digits ++ List.replicate (whole - d.digits.length) '0'
    let fraction := digits.drop whole
    digits.take whole ++ '.' :: (if fraction.isEmpty then ['0'] else fraction)

/-- Digits with the point after the first one, followed by the exponent and its sign. -/
def scientific (d : Double.Decimal) : List Char :=
  let mantissa := match d.digits with
    | [] => []
    | [c] => [c]
    | c :: rest => c :: '.' :: rest
  mantissa ++ 'e' :: (if d.exponent < 0 then '-' else '+') :: Nat.toDigits 10 d.exponent.natAbs

def floatText (x : Double) : String :=
  let magnitude :=
    if x.code = 0 then ['0', '.', '0']
    else
      let d := Double.shortest x.code
      if positional d.exponent then placePoint d else scientific d
  String.ofList (if x.negative then '-' :: magnitude else magnitude)

def integerText (i : Int) : String :=
  let digits := Nat.toDigits 10 i.natAbs
  String.ofList (if i < 0 then '-' :: digits else digits)

/-! ## Compact form -/

mutual
def compact : Json → String
  | .null => "null"
  | .bool b => if b then "true" else "false"
  | .integer i => integerText i
  | .float x => floatText x
  | .string s => quoted s
  | .array items => "[" ++ compactItems items ++ "]"
  | .object members => "\x7b" ++ compactMembers members ++ "\x7d"

/-- The items of an array, separated by commas. -/
def compactItems : List Json → String
  | [] => ""
  | [x] => compact x
  | x :: y :: rest => compact x ++ "," ++ compactItems (y :: rest)

/-- The members of an object, separated by commas. -/
def compactMembers : List (String × Json) → String
  | [] => ""
  | [(k, x)] => quoted k ++ ":" ++ compact x
  | (k, x) :: m :: rest => quoted k ++ ":" ++ compact x ++ "," ++ compactMembers (m :: rest)
end

/-! ## Indented form -/

def margin (depth : Nat) : String := "\n" ++ String.ofList (List.replicate (2 * depth) ' ')

mutual
/-- The indented text of a value that stands at a nesting depth. -/
def indentedAt (depth : Nat) : Json → String
  | .array (x :: rest) =>
      "[" ++ indentedItems (depth + 1) (x :: rest) ++ margin depth ++ "]"
  | .object (m :: rest) =>
      "\x7b" ++ indentedMembers (depth + 1) (m :: rest) ++ margin depth ++ "\x7d"
  | .array [] => "[]"
  | .object [] => "\x7b\x7d"
  | .null => "null"
  | .bool b => compact (.bool b)
  | .integer i => integerText i
  | .float x => floatText x
  | .string s => quoted s

/-- The items of an array, each on its line. -/
def indentedItems (depth : Nat) : List Json → String
  | [] => ""
  | [x] => margin depth ++ indentedAt depth x
  | x :: y :: rest => margin depth ++ indentedAt depth x ++ "," ++ indentedItems depth (y :: rest)

/-- The members of an object, each on its line. -/
def indentedMembers (depth : Nat) : List (String × Json) → String
  | [] => ""
  | [(k, x)] => margin depth ++ quoted k ++ ": " ++ indentedAt depth x
  | (k, x) :: m :: rest =>
      margin depth ++ quoted k ++ ": " ++ indentedAt depth x ++ "," ++
        indentedMembers depth (m :: rest)
end

def indented (j : Json) : String := indentedAt 0 j

end Intake.Json
