/-!
# Finite double-precision numbers

A number is a sign and a magnitude code. The codes 0, 1, 2, … name the magnitudes in increasing
order: below `2^52` code `c` stands for `c · 2^-1074`, and from there on each further block of
`2^52` codes doubles the spacing. Arithmetic is exact on fractions of naturals and rounds once, to
the nearest magnitude and on a tie to the even code.
-/

namespace Intake.Json

/-- The count of magnitudes in a block of equal spacing, `2^52`. -/
def Double.block : Nat := 1 <<< 52

/-- The first magnitude code that is too large to be finite. -/
def Double.limit : Nat := 2047 * Double.block

/-- A finite number of double precision. -/
structure Double where
  negative : Bool
  code : Nat
  finite : code < Double.limit
  deriving DecidableEq

namespace Double

/-- Zero without a sign. -/
def zero : Double := ⟨false, 0, by decide⟩

instance : Inhabited Double := ⟨zero⟩

/-- Equal as numbers: the two zeros are one. -/
def same (x y : Double) : Bool :=
  x.code == y.code && (x.negative == y.negative || x.code == 0)

instance : BEq Double := ⟨same⟩

def neg (x : Double) : Double := { x with negative := !x.negative }

/-- The magnitude that a code names, as `significand · 2^exponent`. -/
def significand (code : Nat) : Nat :=
  if code < block then code else block + code % block

/-- The power of two that goes with `significand`. -/
def exponent (code : Nat) : Int :=
  if code < block then -1074 else (code / block : Nat) - 1075

structure Ratio where
  num : Nat
  den : Nat

/-- `m · 2^e` as a fraction. -/
def Ratio.ofScaled (m : Nat) (e : Int) : Ratio := ⟨m <<< e.toNat, 1 <<< (-e).toNat⟩

def ratio (x : Double) : Ratio := .ofScaled (significand x.code) (exponent x.code)

/-- The quotient of two naturals rounded to the nearest natural, a half to the even one. -/
def roundDiv (num den : Nat) : Nat :=
  let q := num / den
  let r := num % den
  if 2 * r < den then q else if den < 2 * r then q + 1 else q + q % 2

/-- The power of two of the spacing at a positive fraction. -/
def spacing (r : Ratio) : Int :=
  let guess : Int := (r.num.log2 : Int) - r.den.log2 - 52
  let scaled := (r.num <<< (-guess).toNat) / (r.den <<< guess.toNat)
  max (if scaled < block then guess - 1 else guess) (-1074)

/-- The code of the magnitude nearest to a fraction, on a tie the even one. -/
def nearestCode (r : Ratio) : Nat :=
  if r.num = 0 then 0 else
    let e := spacing r
    (e + 1074).toNat * block + roundDiv (r.num <<< (-e).toNat) (r.den <<< e.toNat)

/-- The number nearest to a signed fraction, or none where that is past the finite ones. -/
def ofRatio? (negative : Bool) (r : Ratio) : Option Double :=
  if h : nearestCode r < limit then some ⟨negative, nearestCode r, h⟩ else none

/-- The number nearest to a natural, or none where that is past the finite ones. -/
def ofNat? (n : Nat) : Option Double := ofRatio? false ⟨n, 1⟩

/-- The product, or none where it is past the finite numbers. -/
def mul? (x y : Double) : Option Double :=
  ofRatio? (x.negative != y.negative)
    ⟨x.ratio.num * y.ratio.num, x.ratio.den * y.ratio.den⟩

/-- The quotient by a number other than zero, or none where it is past the finite numbers. -/
def div? (x y : Double) : Option Double :=
  ofRatio? (x.negative != y.negative)
    ⟨x.ratio.num * y.ratio.den, x.ratio.den * y.ratio.num⟩

/-- The number nearest to a power of ten, or none from `10^309` on. -/
def tenPow? (k : Nat) : Option Double := ofNat? (Nat.pow 10 k)

/-- An integer as the nearest number; integers of 64 bits are all in range. -/
def ofInt? (i : Int) : Option Double := ofRatio? (i < 0) ⟨i.natAbs, 1⟩

end Double

end Intake.Json
