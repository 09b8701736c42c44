/-!
IP addresses in URLs. An IPv4 address has up to four numbers, each decimal, octal after a zero or
hexadecimal after `0x`; the last one fills the bytes that are left. An IPv6 address has eight
pieces, of which one run of zeros may be left out.
-/
namespace StatusBoard.Url

namespace Ipv4

/-- The value of a digit of any base up to sixteen. -/
def digitValue (c : Char) : Nat :=
  if c.isDigit then c.toNat - '0'.toNat
  else if 'a' ≤ c && c ≤ 'f' then c.toNat - 'a'.toNat + 10
  else if 'A' ≤ c && c ≤ 'F' then c.toNat - 'A'.toNat + 10
  else 16

/-- The number that digits of a base spell, if they are such digits; no digits spell zero. -/
def spell? (base : Nat) (ds : List Char) : Option Nat :=
  if ds.all (fun d => digitValue d < base) then
    some (ds.foldl (fun n d => base * n + digitValue d) 0)
  else none

/-- A number of an address. -/
def number? : List Char → Option Nat
  | [] => none
  | '0' :: 'x' :: ds => spell? 16 ds
  | '0' :: 'X' :: ds => spell? 16 ds
  | '0' :: d :: ds => spell? 8 (d :: ds)
  | ds => spell? 10 ds

/-- The pieces of a text between points. -/
def pieces (cs : List Char) : List (List Char) :=
  cs.splitOn '.'

/-- The pieces without an empty one at the end, if there is another. -/
def numberPieces (cs : List Char) : List (List Char) :=
  let ps := pieces cs
  if ps.getLast? = some [] then ps.dropLast else ps

/-- Whether a host has to be an address: its last piece is a number. -/
def isMeant (cs : List Char) : Bool :=
  match (numberPieces cs).getLast? with
  | none => false
  | some p => (p != [] && p.all Char.isDigit) || (number? p).isSome

/-- The address as one number. -/
def parse? (cs : List Char) : Option Nat := do
  let ps := numberPieces cs
  if 4 < ps.length then none
  let ns ← ps.mapM number?
  let last ← ns.getLast?
  let front := ns.dropLast
  if Nat.pow 256 (4 - front.length) ≤ last ∨ front.any (255 < ·) then none
  else some (front.foldl (fun n b => 256 * n + b) 0 * .pow 256 (4 - front.length) + last)

/-- The four bytes in decimal. -/
def text (n : Nat) : String :=
  ".".intercalate ([n / 0x1000000, n / 0x10000 % 256, n / 0x100 % 256, n % 256].map toString)

end Ipv4

namespace Ipv6

def isHex (c : Char) : Bool := Ipv4.digitValue c < 16

/-- A decimal byte without leading zeros, and the rest. -/
def byte? (cs : List Char) : Option (Nat × List Char) :=
  let ds := cs.takeWhile Char.isDigit
  let n := ds.foldl (fun n d => 10 * n + Ipv4.digitValue d) 0
  if ds = [] ∨ (1 < ds.length ∧ ds.head? = some '0') ∨ 255 < n then none
  else some (n, cs.drop ds.length)

/-- Four decimal bytes between points, up to the end, as two pieces. -/
def tail? (cs : List Char) : Option (List Nat) := do
  let point : List Char → Option (List Char)
    | '.' :: r => some r
    | _ => none
  let (a, r) ← byte? cs
  let (b, r) ← byte? (← point r)
  let (c, r) ← byte? (← point r)
  let (d, r) ← byte? (← point r)
  if r = [] then some [256 * a + b, 256 * c + d] else none

/-- Reads pieces. `place` counts the pieces read and the gap; `gap` is the number of pieces before
the run that was left out. -/
def read : Nat → Nat → Option Nat → List Nat → List Char → Option (List Nat × Option Nat)
  | _, _, gap, ps, [] => some (ps, gap)
  | 0, _, _, _, _ => none
  | fuel + 1, place, gap, ps, c :: cs =>
    if place = 8 then none
    else if c = ':' then
      if gap.isSome then none else read fuel (place + 1) (some ps.length) ps cs
    else
      let ds := (c :: cs).take 4 |>.takeWhile isHex
      let n := ds.foldl (fun n d => 16 * n + Ipv4.digitValue d) 0
      match (c :: cs).drop ds.length with
      | [] => some (ps ++ [n], gap)
      | '.' :: _ =>
        if ds = [] ∨ 6 < place then none
        else (tail? (c :: cs)).map fun ns => (ps ++ ns, gap)
      | ':' :: r => if r = [] then none else read fuel (place + 1) gap (ps ++ [n]) r
      | _ => none

/-- The eight pieces of an address. -/
def parse? (cs : List Char) : Option (List Nat) := do
  let (ps, gap) ← match cs with
    | ':' :: ':' :: r => read (cs.length + 1) 1 (some 0) [] r
    | ':' :: _ => none
    | [_] => none
    | [] => none
    | cs => read (cs.length + 1) 0 none [] cs
  match gap with
  | none => if ps.length = 8 then some ps else none
  | some k =>
    if ps.length ≤ 8 then some (ps.take k ++ List.replicate (8 - ps.length) 0 ++ ps.drop k)
    else none

/-- The length of the run of zeros in front. -/
def zeros (ps : List Nat) : Nat := (ps.takeWhile (· == 0)).length

/-- The place and length of the first longest run of zeros, counted from `place`. -/
def longestRun : Nat → List Nat → Nat × Nat
  | place, [] => (place, 0)
  | place, p :: ps =>
    let here := zeros (p :: ps)
    let (there, length) := longestRun (place + 1) ps
    if length ≤ here ∧ 0 < here then (place, here) else (there, length)

def hex (n : Nat) : String := String.ofList (Nat.toDigits 16 n)

/-- The pieces in hexadecimal; a run of two or more zeros is left out. -/
def text (ps : List Nat) : String :=
  let (place, length) := longestRun 0 ps
  let row (ns : List Nat) : String := ":".intercalate (ns.map hex)
  if length < 2 then row ps
  else row (ps.take place) ++ "::" ++ row (ps.drop (place + length))

end Ipv6

end StatusBoard.Url
