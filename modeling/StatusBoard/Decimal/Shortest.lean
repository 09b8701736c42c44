import StatusBoard.Decimal.Binary64

/-!
The shortest decimal number that reads back as a given binary64 number, and among those of that
length the nearest one.
-/
namespace StatusBoard.Decimal

/-- The number `0.d₁d₂… * 10 ^ point` for digits `d₁ d₂ …`, the first of them not zero. -/
structure Digits where
  digits : List Nat
  point : Int
deriving DecidableEq, Repr

namespace Binary64

/-- Compares `c * 10 ^ k` with `u * 2 ^ q`. -/
def compareDecimal (c : Nat) (k : Int) (u : Nat) (q : Int) : Ordering :=
  compare (c * .pow 10 k.toNat * .pow 2 (-q).toNat) (u * .pow 2 q.toNat * .pow 10 (-k).toNat)

/-- Whether `c * 10 ^ k` rounds to `x`. The bounds are halfway to the neighbours of `x`, counted
in quarters of its last place; they belong to `x` when its significand is even. -/
def roundsTo (x : Binary64) (c : Nat) (k : Int) : Bool :=
  let closer := x.significand = .pow 2 (precision - 1) && x.exponent != minExponent
  let low := compareDecimal c k (4 * x.significand - (if closer then 1 else 2)) (x.exponent - 2)
  let high := compareDecimal c k (4 * x.significand + 2) (x.exponent - 2)
  if x.significand % 2 = 0 then low != .lt && high != .gt else low == .gt && high == .lt

/-- The least `p` with `x < 10 ^ p`, searched upwards from `p`. -/
def magnitudeFrom (x : Binary64) : Nat → Int → Int
  | 0, p => p
  | fuel + 1, p =>
    if compareDecimal 1 p x.significand x.exponent == .gt then p else magnitudeFrom x fuel (p + 1)

/-- The least `p` with `x < 10 ^ p`. -/
def magnitude (x : Binary64) : Int :=
  magnitudeFrom x 700 (-330)

/-- The whole number of units `10 ^ k` below or at `x`. -/
def floorDecimal (x : Binary64) (k : Int) : Nat :=
  (x.significand * .pow 2 x.exponent.toNat * .pow 10 (-k).toNat) /
    (.pow 2 (-x.exponent).toNat * .pow 10 k.toNat)

/-- Of two neighbours on a decimal grid that read back as `x`, the nearer; a tie goes to the even
one. -/
def nearer (x : Binary64) (c : Nat) (k : Int) : Nat :=
  match compareDecimal (2 * c + 1) k (2 * x.significand) x.exponent with
  | .lt => c + 1
  | .gt => c
  | .eq => if c % 2 = 0 then c else c + 1

/-- The decimal number with `n` digits that reads back as `x`, if there is one. -/
def withDigits? (x : Binary64) (n : Nat) : Option (Nat × Int) :=
  let k := x.magnitude - n
  let c := x.floorDecimal k
  match x.roundsTo c k, x.roundsTo (c + 1) k with
  | true, true => some (x.nearer c k, k)
  | true, false => some (c, k)
  | false, true => some (c + 1, k)
  | false, false => none

/-- A decimal number as digits without trailing zeros. -/
def digitsOf (c : Nat) (k : Int) : Digits :=
  let ds := (Nat.toDigits 10 c).map fun d => d.toNat - '0'.toNat
  ⟨(ds.reverse.dropWhile (· == 0)).reverse, k + ds.length⟩

/-- The shortest digits that read back; those of zero are none. -/
def shortest (x : Binary64) : Digits :=
  if x.isZero then ⟨[], 0⟩
  else
    match ((List.range 17).map (· + 1)).findSome? x.withDigits? with
    | some (c, k) => digitsOf c k
    | none => digitsOf (x.floorDecimal (x.magnitude - 17)) (x.magnitude - 17)

end Binary64

namespace Digits

/-- Digits as characters. -/
def chars (ds : List Nat) : List Char :=
  ds.map Nat.digitChar

/-- Positional text with at least one digit on both sides of the point. -/
def positional (x : Digits) : String :=
  let n := x.digits.length
  if x.digits = [] then "0.0"
  else if x.point ≤ 0 then
    String.ofList (['0', '.'] ++ List.replicate (-x.point).toNat '0' ++ chars x.digits)
  else if n ≤ x.point.toNat then
    String.ofList (chars x.digits ++ List.replicate (x.point.toNat - n) '0' ++ ['.', '0'])
  else
    String.ofList (chars (x.digits.take x.point.toNat) ++ ['.'] ++
      chars (x.digits.drop x.point.toNat))

/-- Text with one digit before the point and an exponent of a sign and at least two digits. -/
def exponential (x : Digits) : String :=
  let e := x.point - 1
  let mantissa := match x.digits with
    | [] => ['0']
    | [d] => chars [d]
    | d :: ds => chars [d] ++ ['.'] ++ chars ds
  let power := Nat.toDigits 10 e.natAbs
  let power := if power.length < 2 then '0' :: power else power
  String.ofList (mantissa ++ ['e', if e < 0 then '-' else '+'] ++ power)

/-- Positional for magnitudes from `10 ^ -5` to below `10 ^ 16`, exponential outside. -/
def mixed (x : Digits) : String :=
  if x.digits = [] ∨ (-5 < x.point ∧ x.point ≤ 16) then x.positional else x.exponential

end Digits

end StatusBoard.Decimal
