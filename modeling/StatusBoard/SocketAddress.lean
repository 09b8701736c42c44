import StatusBoard.Url.Ip

/-!
Socket addresses: an IPv4 address of four decimal bytes, or an IPv6 address in brackets with an
optional scope number, each with a port after a colon.
-/
namespace StatusBoard

/-- An address with its port. -/
inductive SocketAddress where
  | v4 (bytes : List Nat) (port : Nat)
  | v6 (pieces : List Nat) (scope : Nat) (port : Nat)
deriving DecidableEq, Repr

namespace SocketAddress

open Url.Ipv4 (digitValue)

/-- A number of a base below a limit, in as many digits as follow, up to `most`. -/
def number? (base most limit : Nat) (cs : List Char) : Option (Nat × List Char) :=
  let ds := (cs.take most).takeWhile fun c => digitValue c < base
  let n := ds.foldl (fun n d => base * n + digitValue d) 0
  if ds = [] ∨ limit ≤ n then none else some (n, cs.drop ds.length)

/-- A decimal byte of at most three digits, without leading zeros. -/
def byte? (cs : List Char) : Option (Nat × List Char) :=
  match cs with
  | '0' :: d :: _ => if d.isDigit then none else number? 10 3 256 cs
  | cs => number? 10 3 256 cs

/-- The rest after a given character. -/
def expect? (c : Char) : List Char → Option (List Char)
  | d :: r => if d = c then some r else none
  | [] => none

/-- Four bytes between points. -/
def v4? (cs : List Char) : Option (List Nat × List Char) := do
  let (a, r) ← byte? cs
  let (b, r) ← byte? (← expect? '.' r)
  let (c, r) ← byte? (← expect? '.' r)
  let (d, r) ← byte? (← expect? '.' r)
  some ([a, b, c, d], r)

/-- Up to `limit` pieces between colons; four bytes may stand for the last two. Gives the pieces,
whether bytes ended them, and the rest. -/
def pieces : Nat → Bool → List Char → List Nat × Bool × List Char
  | 0, _, cs => ([], false, cs)
  | limit + 1, first, cs =>
    let after := if first then some cs else expect? ':' cs
    match (if limit = 0 then none else after.bind v4?) with
    | some ([a, b, c, d], r) => ([256 * a + b, 256 * c + d], true, r)
    | _ =>
      match after.bind (number? 16 4 65536) with
      | none => ([], false, cs)
      | some (n, r) =>
        let (ns, bytes, r) := pieces limit false r
        (n :: ns, bytes, r)

/-- Eight pieces, of which one run of zeros may be left out. -/
def v6? (cs : List Char) : Option (List Nat × List Char) :=
  let (front, bytes, r) := pieces 8 true cs
  if front.length = 8 then some (front, r)
  else if bytes then none
  else do
    let r ← expect? ':' (← expect? ':' r)
    let (back, _, r) := pieces (7 - front.length) true r
    some (front ++ List.replicate (8 - front.length - back.length) 0 ++ back, r)

/-- A port after its colon, up to the end. -/
def port? (cs : List Char) : Option Nat := do
  let r ← expect? ':' cs
  let (n, r) ← number? 10 r.length 65536 r
  if r = [] then some n else none

/-- The address that a text is. -/
def parse? (s : String) : Option SocketAddress :=
  match s.toList with
  | '[' :: r => do
    let (ps, r) ← v6? r
    let (scope, r) ← match r with
      | '%' :: r => number? 10 r.length UInt32.size r
      | r => some (0, r)
    let r ← expect? ']' r
    some (.v6 ps scope (← port? r))
  | cs => do
    let (bs, r) ← v4? cs
    some (.v4 bs (← port? r))

/-- The address as it is shown. -/
def text : SocketAddress → String
  | .v4 bs p => ".".intercalate (bs.map toString) ++ ":" ++ toString p
  | .v6 ps scope p =>
    "[" ++ Url.Ipv6.text ps ++ (if scope = 0 then "" else "%" ++ toString scope) ++ "]:" ++
      toString p

/-- The text of an address as it is shown; any other text as it is. -/
def shown (s : String) : String :=
  match parse? s with
  | some a => a.text
  | none => s

end SocketAddress

end StatusBoard
