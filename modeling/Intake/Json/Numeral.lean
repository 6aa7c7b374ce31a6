import Intake.Json.Document

/-!
# Reading numerals

A numeral without point and exponent is an integer when it fits 64 bits, unsigned or negative; `-0`
and all others are floating-point numbers. Their significand is what of the digits fits an unsigned
word of 64 bits: the first digit that would overflow it is dropped with all later ones of its part,
and each dropped digit before the point counts as a power of ten. The significand is rounded to a
number, which is then multiplied or divided by the rounded power of ten, so the last bit may differ
from the number nearest to the decimal.
-/

namespace Intake.Json

/-- A numeral in its parts, digits as numbers. -/
structure Numeral where
  negative : Bool
  whole : List Nat
  fraction : Option (List Nat)
  /-- The sign (true for minus) and the digits. -/
  exponent : Option (Bool × List Nat)

namespace Numeral

def maxWord : Nat := UInt64.size - 1

def maxExponent : Nat := 2147483647

/-- Appends digits to a significand while it fits; also counts how many did. -/
def keep (significand : Nat) : List Nat → Nat × Nat
  | [] => (significand, 0)
  | d :: rest =>
      if significand * 10 + d ≤ maxWord then
        let (s, kept) := keep (significand * 10 + d) rest
        (s, kept + 1)
      else (significand, 0)

/-- The value of the digits of an exponent, or how many of them it takes to make it too large. -/
def exponentValue (value taken : Nat) : List Nat → Except Nat Nat
  | [] => .ok value
  | d :: rest =>
      if value * 10 + d ≤ maxExponent then exponentValue (value * 10 + d) (taken + 1) rest
      else .error (taken + 1)

/-- A number times a power of ten, in steps of at most 308 powers; `none` past the finite
numbers. -/
def scale : Nat → Double → Int → Option Double
  | 0, _, _ => none
  | steps + 1, x, e =>
      if e.natAbs ≤ 308 then
        (Double.tenPow? e.natAbs).bind fun p => if 0 ≤ e then x.mul? p else x.div? p
      else if x.code = 0 then some x
      else if 0 ≤ e then none
      else (Double.tenPow? 308).bind fun p => (x.div? p).bind fun y => scale steps y (e + 308)

/-- The floating-point number of a significand and a power of ten. -/
def float? (negative : Bool) (significand : Nat) (exponent : Int) : Option Double :=
  (Double.ofNat? significand).bind fun x =>
    (scale (exponent.natAbs / 308 + 1) x exponent).map fun y => if negative then y.neg else y

/-- The integer of a sign and a significand, if it is one. -/
def integer? (negative : Bool) (significand : Nat) : Option Int :=
  if negative then
    if 0 < significand && significand ≤ UInt64.size / 2 then some (-significand) else none
  else some significand

/-- The value of a numeral; an error is the number of bytes before its end at which it is found to
be out of range. -/
def value (n : Numeral) : Except Nat Scalar :=
  let (significand, kept) := keep 0 n.whole
  let dropped := n.whole.length - kept
  let (significand, places) := keep significand (n.fraction.getD [])
  let start : Int := (dropped : Int) - places
  let asFloat (exponent : Int) : Except Nat Scalar :=
    match float? n.negative significand exponent with
    | some x => .ok (.float x)
    | none => .error 0
  match n.exponent with
  | some (down, digits) =>
      match exponentValue 0 0 digits with
      | .ok e => asFloat (if down then start - e else start + e)
      | .error taken =>
          if significand ≠ 0 ∧ !down then .error (digits.length - taken)
          else .ok (.float ⟨n.negative, 0, Double.zero.finite⟩)
  | none =>
      if n.fraction.isSome || dropped ≠ 0 then asFloat start
      else match integer? n.negative significand with
        | some i => .ok (.integer i)
        | none => asFloat 0

end Numeral

end Intake.Json
