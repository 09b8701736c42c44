/-!
Tables of code points, packed into lines of text. A row is a list of numbers in base 36; rows stand
between commas. The first number of a row counts from the first number of the row before.
-/
namespace StatusBoard.Unicode.Packed

def digit (c : Char) : Nat :=
  if c.isDigit then c.toNat - '0'.toNat else c.toNat - 'a'.toNat + 10

def number (s : String) : Nat :=
  s.toList.foldl (fun n c => 36 * n + digit c) 0

/-- Adds up the first numbers. -/
def sums : Nat → List (List Nat) → List (List Nat)
  | _, [] => []
  | n, [] :: rows => sums n rows
  | n, (gap :: more) :: rows => ((n + gap) :: more) :: sums (n + gap) rows

/-- The rows of a table. -/
def rows (lines : List String) : List (List Nat) :=
  sums 0 (lines.flatMap fun line =>
    (line.splitOn ",").map fun row => (row.splitOn " ").map number)

/-- Codes that follow one another, with a value; zero stands for none. -/
structure Range where
  first : Nat
  size : Nat
  value : Nat
deriving DecidableEq, Repr

namespace Range

def contains (r : Range) (code : Nat) : Bool :=
  r.first ≤ code && code < r.first + r.size

/-- A range from a row of its first code, its size and its value. -/
def ofRow : List Nat → Range
  | [first] => ⟨first, 1, 0⟩
  | [first, size] => ⟨first, size, 0⟩
  | first :: size :: value :: _ => ⟨first, size, value⟩
  | [] => ⟨0, 0, 0⟩

end Range

/-- The ranges of a table. -/
def ranges (lines : List String) : List Range :=
  (rows lines).map Range.ofRow

/-- The value at a code, if some range contains it. -/
def value? (rs : List Range) (code : Nat) : Option Nat :=
  (rs.find? (·.contains code)).map (·.value)

/-- Whether some range contains a code. -/
def holds (rs : List Range) (code : Nat) : Bool :=
  rs.any (·.contains code)

end StatusBoard.Unicode.Packed
