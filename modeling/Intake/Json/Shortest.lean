import Intake.Json.Double

/-!
# The shortest decimal that reads back

Every finite number is the nearest one to a whole interval of reals: the interval ends half way to
the neighbouring magnitudes and contains its ends when the code is even. Of the decimals in that
interval those with the fewest digits are the candidates, of these the one nearest to the number is
taken, and of two equally near ones the even one.
-/

namespace Intake.Json.Double

/-- A decimal `d₁.d₂d₃… · 10^exponent` with its digits in order. -/
structure Decimal where
  digits : List Char
  exponent : Int

/-- The interval of reals that round to a magnitude, in quarters of its spacing. -/
structure Interval where
  low : Nat
  value : Nat
  high : Nat
  closed : Bool
  scale : Int

/-- Half the way down is a quarter of the spacing where the spacing changes. -/
def interval (code : Nat) : Interval :=
  let m := significand code
  let e := exponent code
  { low := if m = block ∧ -1074 < e then 4 * m - 1 else 4 * m - 2
    value := 4 * m
    high := 4 * m + 2
    closed := m % 2 = 0
    scale := e - 2 }

/-- `n · 2^two · 10^ten` as a fraction. -/
def scaled (n : Nat) (two ten : Int) : Ratio :=
  ⟨(n <<< two.toNat) * Nat.pow 10 ten.toNat, (1 <<< (-two).toNat) * Nat.pow 10 (-ten).toNat⟩

/-- The decimal exponent of a positive magnitude: the `k` with `10^k ≤ x < 10^(k+1)`. -/
def decimalExponent (i : Interval) : Int :=
  let guess : Int := ((i.value.log2 : Int) + i.scale) * 1233 / 4096
  let below (k : Int) : Bool :=
    let r := scaled i.value i.scale (-k)
    r.num < r.den
  if below guess then guess - 1 else if below (guess + 1) then guess else guess + 1

/-- The multiple of `10^grid` in the interval that is nearest to the value, if there is one. -/
def onGrid? (i : Interval) (grid : Int) : Option Nat :=
  let v := scaled i.value i.scale (-grid)
  let low := (scaled i.low i.scale (-grid)).num
  let high := (scaled i.high i.scale (-grid)).num
  let inside (c : Nat) : Bool :=
    if i.closed then low ≤ c * v.den && c * v.den ≤ high else low < c * v.den && c * v.den < high
  let floor := v.num / v.den
  let rest := v.num % v.den
  let nearest := roundDiv v.num v.den
  if inside floor && (inside (floor + 1) || rest == 0) then some nearest
  else if inside floor then some floor
  else if inside (floor + 1) then some (floor + 1)
  else none

/-- Digits without the zeros at their end. -/
def dropTrailingZeros (digits : List Char) : List Char :=
  (digits.reverse.dropWhile (· == '0')).reverse

/-- The shortest decimal for a positive magnitude: the coarsest of 17 grids with a hit. -/
def shortest (code : Nat) : Decimal :=
  let i := interval code
  let k := decimalExponent i
  let hit := (List.range 17).findSome? fun (n : Nat) => (onGrid? i (k - n)).map fun c => (n, c)
  match hit with
  | some (n, c) =>
      let digits := Nat.toDigits 10 c
      ⟨dropTrailingZeros digits, k - n + (digits.length - 1 : Nat)⟩
  | none => ⟨['0'], 0⟩

end Intake.Json.Double
