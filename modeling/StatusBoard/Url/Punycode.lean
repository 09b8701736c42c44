/-!
Names of any characters in ASCII. The ASCII characters come first; the others follow as numbers that
say, in the order of the codes, how far each is from the one before. The digits of a number weigh
more or less according to how large the numbers were so far.
-/
namespace StatusBoard.Url.Punycode

/-- A digit below 36. -/
def digitChar (d : Nat) : Char :=
  Char.ofNat (if d < 26 then 'a'.toNat + d else '0'.toNat + (d - 26))

def digitValue? (c : Char) : Option Nat :=
  if c.isDigit then some (c.toNat - '0'.toNat + 26)
  else if c.isAlpha then some (c.toLower.toNat - 'a'.toNat)
  else none

/-- The least value that a digit must have for the next one to follow. -/
def threshold (bias place : Nat) : Nat :=
  min (max (place - bias) 1) 26

theorem threshold_pos (bias place : Nat) : 0 < threshold bias place := by
  unfold threshold
  omega

/-- Halves a number by steps until it is small, and counts. -/
def settle (n k : Nat) : Nat × Nat :=
  if 455 < n then settle (n / 35) (k + 36) else (n, k)
termination_by n
decreasing_by omega

/-- The bias after a number, given how many characters there are now. -/
def adapt (n count : Nat) (isFirst : Bool) : Nat :=
  let n := if isFirst then n / 700 else n / 2
  let (n, k) := settle (n + n / count) 0
  k + 36 * n / (n + 38)

def initialBias : Nat := 72

/-- The digits of a number. -/
def digits (bias place n : Nat) : List Char :=
  let t := threshold bias place
  if n < t then [digitChar n]
  else digitChar (t + (n - t) % (36 - t)) :: digits bias (place + 36) ((n - t) / (36 - t))
termination_by n
decreasing_by
  have h := threshold_pos bias place
  exact Nat.lt_of_le_of_lt (Nat.div_le_self _ _) (by omega)

/-- A name that is being written: the number so far, the characters handled, the bias, the text. -/
structure Writing where
  distance : Nat
  handled : Nat
  bias : Nat
  isFirst : Bool
  text : List Char

/-- Passes a character while those of a code are looked for. -/
def Writing.pass (code : Nat) (w : Writing) (c : Char) : Writing :=
  if c.toNat < code then { w with distance := w.distance + 1 }
  else if c.toNat = code then
    { distance := 0
      handled := w.handled + 1
      bias := adapt w.distance (w.handled + 1) w.isFirst
      isFirst := false
      text := w.text ++ digits w.bias 36 w.distance }
  else w

/-- Writes the characters of the codes in turn, which begin at a code. -/
def Writing.run (cs : List Char) : Nat → List Nat → Writing → Writing
  | _, [], w => w
  | next, code :: codes, w =>
    let w := { w with distance := w.distance + (code - next) * (w.handled + 1) }
    let w := cs.foldl (Writing.pass code) w
    Writing.run cs (code + 1) codes { w with distance := w.distance + 1 }

/-- The ASCII form of a name. -/
def encode (cs : List Char) : List Char :=
  let plain := cs.filter fun c => c.toNat < 128
  let codes := (((cs.filter fun c => 128 ≤ c.toNat).map Char.toNat).mergeSort (· ≤ ·)).eraseDups
  plain ++ (if plain = [] then [] else ['-']) ++
    (Writing.run cs 128 codes ⟨0, plain.length, initialBias, true, []⟩).text

/-- A name that is being read: its characters, the next code and place, the bias, and the number
that is being read with the weight and the place of its next digit. -/
structure Reading where
  text : List Char
  code : Nat
  position : Nat
  bias : Nat
  isFirst : Bool
  number : Nat
  weight : Nat
  place : Nat

/-- Whether a code is that of a character. -/
def isCode (n : Nat) : Bool :=
  n < 0xd800 || (0xdfff < n && n < 0x110000)

/-- The number is complete: a character takes its place. -/
def Reading.insert? (r : Reading) (number : Nat) : Option Reading :=
  let count := r.text.length + 1
  let slot := r.position + number
  let code := r.code + slot / count
  if isCode code then
    some {
      text := r.text.insertIdx (slot % count) (Char.ofNat code)
      code := code
      position := slot % count + 1
      bias := adapt number count r.isFirst
      isFirst := false
      number := 0
      weight := 1
      place := 36 }
  else none

/-- Reads a digit. -/
def Reading.step? (r : Reading) (c : Char) : Option Reading := do
  let d ← digitValue? c
  let number := r.number + d * r.weight
  let t := threshold r.bias r.place
  if d < t then r.insert? number
  else some { r with number := number, weight := r.weight * (36 - t), place := r.place + 36 }

/-- Splits a text before and after its last hyphen; without one, or with nothing before it, all of
the text comes after. -/
def parts (cs : List Char) : List Char × List Char :=
  match cs.reverse.span (· != '-') with
  | (_, []) => ([], cs)
  | (_, [_]) => ([], cs)
  | (behind, _ :: front) => (front.reverse, behind.reverse)

/-- The name that has a text as its ASCII form. -/
def decode? (cs : List Char) : Option (List Char) := do
  let (plain, behind) := parts cs
  let r ← behind.foldlM Reading.step? ⟨plain, 128, 0, initialBias, true, 0, 1, 36⟩
  if r.place = 36 then some r.text else none

end StatusBoard.Url.Punycode
