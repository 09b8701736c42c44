import StatusBoard.Decimal.Shortest

/-!
Number literals and what they stand for. A literal without point and exponent is an integer when
it lies between the least signed and the greatest unsigned 64-bit number; minus zero and all
other literals are floating point, and those beyond the binary64 range stand for nothing.

A floating-point literal is read from a 64-bit count of its leading digits, scaled by one power
of ten: further digits of the whole part only count as places, and further digits of the fraction
count for nothing.
-/
namespace StatusBoard.Json

open Decimal

/-- The parts of a literal; digits stand in the order of the text. -/
structure Numeral where
  negative : Bool := false
  whole : List Nat := []
  fraction : Option (List Nat) := none
  exponent : Option (Bool × List Nat) := none
deriving DecidableEq, Repr

/-- What a literal stands for. -/
inductive Number where
  | integer (n : Int)
  | float (negative : Bool) (size : Binary64)
deriving DecidableEq, Repr

namespace Number

/-- The sign and the shortest digits that read back. -/
def floatText (negative : Bool) (size : Binary64) : String :=
  (if negative then "-" else "") ++ size.shortest.mixed

end Number

namespace Numeral

def wordLimit : Nat := UInt64.size

/-- The number that a row of digits spells. -/
def value (ds : List Nat) : Nat :=
  ds.foldl (fun n d => 10 * n + d) 0

/-- The digits of the whole part that fit a word, and how many do not. -/
def fitWhole : List Nat → Nat → Nat × Nat
  | [], n => (n, 0)
  | d :: ds, n => if 10 * n + d < wordLimit then fitWhole ds (10 * n + d) else (n, ds.length + 1)

/-- The word after taking in digits of the fraction while they fit, and how many did. -/
def fitFraction : List Nat → Nat → Nat → Nat × Nat
  | [], n, taken => (n, taken)
  | d :: ds, n, taken =>
    if 10 * n + d < wordLimit then fitFraction ds (10 * n + d) (taken + 1) else (n, taken)

/-- The greatest power of ten that is a binary64 number. -/
def greatestPower : Nat := 308

/-- `x * 10 ^ (-k)`, by steps of the greatest power. -/
def scaleDown : Nat → Binary64 → Nat → Option Binary64
  | 0, x, _ => some x
  | fuel + 1, x, k =>
    if k ≤ greatestPower then do x.over? (← Binary64.powerOfTen? k)
    else if x.isZero then some x
    else do scaleDown fuel (← x.over? (← Binary64.powerOfTen? greatestPower)) (k - greatestPower)

/-- A word scaled by a power of ten. -/
def scale (word : Nat) (k : Int) : Option Binary64 := do
  let x ← Binary64.ofRatio? word 1
  if 0 ≤ k then
    if k.toNat ≤ greatestPower then x.times? (← Binary64.powerOfTen? k.toNat)
    else if x.isZero then some x
    else none
  else scaleDown 5 x (-k).toNat

/-- The size of a floating-point literal. -/
def size (n : Numeral) : Option Binary64 :=
  let (word, dropped) := fitWhole n.whole 0
  let (word, taken) := fitFraction (n.fraction.getD []) word 0
  let places : Int := dropped - taken
  match n.exponent with
  | none => scale word places
  | some (negative, ds) =>
    if UInt32.size / 2 ≤ value ds then
      if word = 0 ∨ negative then some .zero else none
    else scale word (places + (if negative then -(value ds : Int) else value ds))

/-- What the literal stands for, if its size is in range. -/
def number? (n : Numeral) : Option Number :=
  let v := value n.whole
  if n.fraction = none ∧ n.exponent = none ∧
      (if n.negative then 0 < v ∧ v ≤ wordLimit / 2 else v < wordLimit) then
    some (.integer (if n.negative then -(v : Int) else v))
  else n.size.map (.float n.negative)

end Numeral

end StatusBoard.Json
