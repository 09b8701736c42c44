import StatusBoard.Unicode.NameMapping.Exclusions
import StatusBoard.Unicode.NameMapping.Shifts
import StatusBoard.Unicode.NameMapping.Spellings
import StatusBoard.Unicode.Packed

/-!
What becomes of a character in a name: it is kept, passed over, replaced or refused. Letters lose
their case, and compatibility forms give way to the characters that they are forms of.
-/
namespace StatusBoard.Unicode.NameMapping

open Packed (Range)

/-- A run of characters that stand for others at the same distance. -/
structure Shift where
  first : Nat
  image : Nat
  count : Nat
  step : Nat
deriving DecidableEq, Repr

namespace Shift

def ofRow : List Nat → Shift
  | first :: image :: count :: step :: _ => ⟨first, image, count, step⟩
  | first :: image :: _ => ⟨first, image, 1, 1⟩
  | _ => ⟨0, 0, 0, 1⟩

def contains (s : Shift) (code : Nat) : Bool :=
  s.first ≤ code && (code - s.first) % s.step == 0 && (code - s.first) / s.step < s.count

end Shift

def shifts : List Shift := (Packed.rows shiftTable).map Shift.ofRow
def spellings : List (List Nat) := Packed.rows spellingTable
def refused : List Range := Packed.ranges refusedTable
def ignored : List Range := Packed.ranges ignoredTable

/-- The characters that one stands for. -/
def replacement? (code : Nat) : Option (List Nat) :=
  match shifts.find? (·.contains code) with
  | some s => some [s.image + (code - s.first)]
  | none => (spellings.find? fun row => row.head? == some code).map List.tail

/-- The characters that a character becomes; none if no name holds it. -/
def meaning? (c : Char) : Option (List Char) :=
  if Packed.holds refused c.toNat then none
  else if Packed.holds ignored c.toNat then some []
  else match replacement? c.toNat with
    | some codes => some (codes.map Char.ofNat)
    | none => some [c]

/-- A whole text. -/
def meaningOfAll? (cs : List Char) : Option (List Char) :=
  (cs.mapM meaning?).map List.flatten

end StatusBoard.Unicode.NameMapping
