/-!
Non-negative numbers of the binary64 format, exactly: a significand below `2 ^ 53` times a power
of two. Rounding goes to the nearest such number and, halfway between two, to the one whose
significand is even.
-/
namespace StatusBoard.Decimal

/-- The number `significand * 2 ^ exponent`. -/
structure Binary64 where
  significand : Nat
  exponent : Int
deriving DecidableEq, Repr

namespace Binary64

/-- Bits of a full significand. -/
def precision : Nat := 53

/-- The least exponent, that of the subnormal numbers. -/
def minExponent : Int := -1074

/-- The greatest exponent of a full significand. -/
def maxExponent : Int := 971

def zero : Binary64 := ⟨0, minExponent⟩

def isZero (x : Binary64) : Bool := x.significand == 0

/-- The quotient rounded to the nearest whole number, a half to the even one. -/
def roundQuotient (num den : Nat) : Nat :=
  let q := num / den
  let r := num % den
  if 2 * r < den then q
  else if den < 2 * r then q + 1
  else if q % 2 = 0 then q else q + 1

/-- `num / den` in units of `2 ^ e`, as a quotient of whole numbers. -/
def inUnits (num den : Nat) (e : Int) : Nat × Nat :=
  if 0 ≤ e then (num, den * .pow 2 e.toNat) else (num * .pow 2 (-e).toNat, den)

/-- The exponent at which `num / den` has a full significand, or the least one. -/
def exponentOf (num den : Nat) : Int :=
  let e : Int := (Nat.log2 num : Int) - Nat.log2 den - precision
  let (n, d) := inUnits num den e
  let e := if n / d < .pow 2 precision then e else e + 1
  max e minExponent

/-- The number nearest to `num / den`; none if that is beyond the range. -/
def ofRatio? (num den : Nat) : Option Binary64 :=
  if num = 0 then some zero
  else
    let e := exponentOf num den
    let (n, d) := inUnits num den e
    let m := roundQuotient n d
    let x : Binary64 := if m = .pow 2 precision then ⟨.pow 2 (precision - 1), e + 1⟩ else ⟨m, e⟩
    if maxExponent < x.exponent then none else some x

/-- The number as a quotient of whole numbers. -/
def toRatio (x : Binary64) : Nat × Nat :=
  inUnits x.significand 1 (-x.exponent)

/-- Rounded product. -/
def times? (x y : Binary64) : Option Binary64 :=
  let (a, b) := x.toRatio
  let (c, d) := y.toRatio
  ofRatio? (a * c) (b * d)

/-- Rounded quotient, for a divisor other than zero. -/
def over? (x y : Binary64) : Option Binary64 :=
  let (a, b) := x.toRatio
  let (c, d) := y.toRatio
  ofRatio? (a * d) (b * c)

/-- The number nearest to a power of ten. -/
def powerOfTen? (k : Nat) : Option Binary64 :=
  ofRatio? (.pow 10 k) 1

/-- The number nearest to `digits * 10 ^ k`; none beyond the range. The powers of ten are held to
four hundred places beyond the digits, where every number is out of range or rounds to zero. -/
def ofDecimal? (digits : Nat) (k : Int) : Option Binary64 :=
  if digits = 0 then some zero
  else
    let places : Int := (Nat.toDigits 10 digits).length
    if 400 < places + k then none
    else if places + k < -400 then some zero
    else if 0 ≤ k then ofRatio? (digits * .pow 10 k.toNat) 1
    else ofRatio? digits (.pow 10 (-k).toNat)

end Binary64

end StatusBoard.Decimal
