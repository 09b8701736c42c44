/-!
Percent-encoding. Each part of a URL has its set of characters that are encoded; characters beyond
ASCII are always encoded, by the bytes of their UTF-8 form.
-/
namespace StatusBoard.Url.Percent

/-- Controls and the delete character, which every part encodes. -/
def inControls (c : Char) : Bool := c.toNat < 0x20 || c.toNat == 0x7f

def inFragment (c : Char) : Bool :=
  inControls c || c ∈ [' ', '"', '<', '>', '\x60']

def inPath (c : Char) : Bool :=
  inFragment c || c ∈ ['#', '?', '\x7b', '\x7d']

def inUserinfo (c : Char) : Bool :=
  inPath c || c ∈ ['/', ':', ';', '=', '@', '[', '\\', ']', '^', '|']

/-- Queries of special URLs encode the single quote too. -/
def inQuery (special : Bool) (c : Char) : Bool :=
  inControls c || c ∈ [' ', '"', '#', '<', '>'] || (special && c == '\'')

/-- An upper-case hexadecimal digit. -/
def hexDigit (n : Nat) : Char :=
  (Nat.digitChar n).toUpper

def encodeByte (b : UInt8) : List Char :=
  ['%', hexDigit (b.toNat / 16), hexDigit (b.toNat % 16)]

/-- One character, encoded if it is in the set. -/
def encodeChar (inSet : Char → Bool) (c : Char) : List Char :=
  if c.toNat < 0x80 then if inSet c then encodeByte (.ofNat c.toNat) else [c]
  else (String.utf8EncodeChar c).flatMap encodeByte

def encode (inSet : Char → Bool) (cs : List Char) : List Char :=
  cs.flatMap (encodeChar inSet)

/-- The value of a hexadecimal digit. -/
def hexValue? (b : UInt8) : Option UInt8 :=
  if 0x30 ≤ b && b ≤ 0x39 then some (b - 0x30)
  else if 0x41 ≤ b && b ≤ 0x46 then some (b - 0x37)
  else if 0x61 ≤ b && b ≤ 0x66 then some (b - 0x57)
  else none

/-- Replaces each encoded byte by the byte; a percent sign without two digits stands for itself. -/
def decode : List UInt8 → List UInt8
  | 0x25 :: a :: b :: r =>
    match hexValue? a, hexValue? b with
    | some x, some y => (16 * x + y) :: decode r
    | _, _ => 0x25 :: decode (a :: b :: r)
  | b :: r => b :: decode r
  | [] => []

end StatusBoard.Url.Percent
