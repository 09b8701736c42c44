import StatusBoard.Json.Reader

/-!
The grammar of JSON texts, apart from any reader: which bytes spell which value. White space may
stand around each value, key, comma and colon. A text is spelled glyph by glyph, each a byte or an
escape, and a character is given by its UTF-8 bytes, by one escaped code unit, or by two that are a
surrogate pair. A number is spelled by its literal.
-/
namespace StatusBoard.Json

/-- The byte of an ASCII character. -/
def code (c : Char) : UInt8 := .ofNat c.toNat

def Spaces (t : List UInt8) : Prop :=
  ∀ b ∈ t, b = code ' ' ∨ b = code '\t' ∨ b = code '\n' ∨ b = code '\r'

theorem spaces_nil : Spaces [] := fun _ h => absurd h List.not_mem_nil

theorem Spaces.append {u v : List UInt8} (hu : Spaces u) (hv : Spaces v) : Spaces (u ++ v) :=
  fun b hb => (List.mem_append.mp hb).elim (hu b) (hv b)

/-- A row of decimal digits. -/
structure IsDigits (ds : List Nat) : Prop where
  ne_nil : ds ≠ []
  lt_ten : ∀ d ∈ ds, d < 10

/-- The bytes of decimal digits. -/
def digitCodes (ds : List Nat) : List UInt8 := ds.map fun d => .ofNat (0x30 + d)

namespace Grammar

/-- The whole part of a number has no leading zero. -/
structure IsWhole (ds : List Nat) : Prop extends IsDigits ds where
  no_leading_zero : ds = [0] ∨ ds.head? ≠ some 0

inductive Fraction : Option (List Nat) → List UInt8 → Prop
  | none : Fraction none []
  | some (ds : List Nat) (hds : IsDigits ds) : Fraction (some ds) ([code '.'] ++ digitCodes ds)

/-- The sign of an exponent; a plus may be left out. -/
inductive ExponentSign : Bool → List UInt8 → Prop
  | none : ExponentSign false []
  | plus : ExponentSign false [code '+']
  | minus : ExponentSign true [code '-']

inductive Exponent : Option (Bool × List Nat) → List UInt8 → Prop
  | none : Exponent none []
  | some (mark : UInt8) (negative : Bool) (sign : List UInt8) (ds : List Nat)
      (hmark : mark = code 'e' ∨ mark = code 'E') (hsign : ExponentSign negative sign)
      (hds : IsDigits ds) : Exponent (some (negative, ds)) ([mark] ++ sign ++ digitCodes ds)

inductive Literal : Numeral → List UInt8 → Prop
  | mk (n : Numeral) (f e : List UInt8) (hwhole : IsWhole n.whole) (hf : Fraction n.fraction f)
      (he : Exponent n.exponent e) :
      Literal n ((if n.negative then [code '-'] else []) ++ digitCodes n.whole ++ f ++ e)

inductive HexDigit : Nat → UInt8 → Prop
  | decimal (d : Nat) (hd : d < 10) : HexDigit d (.ofNat (0x30 + d))
  | upper (d : Nat) (hd : d < 6) : HexDigit (10 + d) (.ofNat (0x41 + d))
  | lower (d : Nat) (hd : d < 6) : HexDigit (10 + d) (.ofNat (0x61 + d))

/-- The letters that stand behind a backslash, and what they stand for. -/
def shortEscapes : List (Char × Char) :=
  [('"', '"'), ('\\', '\\'), ('/', '/'), ('b', '\x08'), ('f', '\x0c'), ('n', '\n'), ('r', '\r'),
    ('t', '\t')]

inductive SpelledGlyph : Glyph → List UInt8 → Prop
  | plain (b : UInt8) (hcontrol : 0x20 ≤ b) (hquote : b ≠ code '"') (hback : b ≠ code '\\') :
      SpelledGlyph (.byte b) [b]
  | short (letter c : Char) (h : (letter, c) ∈ shortEscapes) :
      SpelledGlyph (.byte (code c)) [code '\\', code letter]
  | unit (p q r s : Nat) (a b c d : UInt8) (ha : HexDigit p a) (hb : HexDigit q b)
      (hc : HexDigit r c) (hd : HexDigit s d) :
      SpelledGlyph (.unit (16 * (16 * (16 * p + q) + r) + s)) [code '\\', code 'u', a, b, c, d]

inductive Glyphs : List Glyph → List UInt8 → Prop
  | nil : Glyphs [] []
  | cons (g : Glyph) (gs : List Glyph) (t u : List UInt8) (hg : SpelledGlyph g t)
      (hgs : Glyphs gs u) : Glyphs (g :: gs) (t ++ u)

/-- A character and the glyphs that give it. -/
inductive Gives : Char → List Glyph → Prop
  | bytes (c : Char) : Gives c ((String.utf8EncodeChar c).map .byte)
  | unit (c : Char) (hc : c.toNat < 0x10000) : Gives c [.unit c.toNat]
  | pair (c : Char) (hc : 0x10000 ≤ c.toNat) :
      Gives c [.unit (0xd800 + (c.toNat - 0x10000) / 0x400),
        .unit (0xdc00 + (c.toNat - 0x10000) % 0x400)]

inductive GivesAll : List Char → List Glyph → Prop
  | nil : GivesAll [] []
  | cons (c : Char) (cs : List Char) (gs hs : List Glyph) (hc : Gives c gs) (hcs : GivesAll cs hs) :
      GivesAll (c :: cs) (gs ++ hs)

/-- A text in quotes, proper Unicode or not. -/
inductive Quoted : Option String → List UInt8 → Prop
  | proper (cs : List Char) (gs : List Glyph) (t : List UInt8) (ht : Glyphs gs t)
      (hgs : GivesAll cs gs) : Quoted (some (String.ofList cs)) ([code '"'] ++ t ++ [code '"'])
  | improper (gs : List Glyph) (t : List UInt8) (ht : Glyphs gs t)
      (hgs : ∀ cs, ¬GivesAll cs gs) : Quoted none ([code '"'] ++ t ++ [code '"'])

/-- The key of a member with its colon, and the white space around both. -/
inductive Key : Option String → List UInt8 → Prop
  | mk (k : Option String) (t u v w : List UInt8) (hk : Quoted k t) (hu : Spaces u)
      (hv : Spaces v) (hw : Spaces w) : Key k (u ++ t ++ v ++ [code ':'] ++ w)

/-- What bytes may spell: a value, or the items or members of an array or object that is open, up to
the bracket that closes it. -/
inductive Content where
  | value (d : Draft)
  | items (ds : List Draft)
  | members (ms : List (Option String × Draft))

inductive Spells : Content → List UInt8 → Prop
  | null : Spells (.value .null) [code 'n', code 'u', code 'l', code 'l']
  | yes : Spells (.value (.bool true)) [code 't', code 'r', code 'u', code 'e']
  | no : Spells (.value (.bool false)) [code 'f', code 'a', code 'l', code 's', code 'e']
  | number (n : Numeral) (t : List UInt8) (h : Literal n t) : Spells (.value (.number n)) t
  | string (s : Option String) (t : List UInt8) (h : Quoted s t) : Spells (.value (.string s)) t
  | emptyArray (u : List UInt8) (hu : Spaces u) :
      Spells (.value (.array [] true)) ([code '['] ++ u ++ [code ']'])
  | array (ds : List Draft) (t : List UInt8) (h : Spells (.items ds) t) :
      Spells (.value (.array ds true)) ([code '['] ++ t)
  | emptyObject (u : List UInt8) (hu : Spaces u) :
      Spells (.value (.object [] true)) ([code '\x7b'] ++ u ++ [code '\x7d'])
  | object (ms : List (Option String × Draft)) (t : List UInt8) (h : Spells (.members ms) t) :
      Spells (.value (.object ms true)) ([code '\x7b'] ++ t)
  | lastItem (d : Draft) (t u v : List UInt8) (hu : Spaces u) (hd : Spells (.value d) t)
      (hv : Spaces v) : Spells (.items [d]) (u ++ t ++ v ++ [code ']'])
  | item (d : Draft) (ds : List Draft) (t u v w : List UInt8) (hu : Spaces u)
      (hd : Spells (.value d) t) (hv : Spaces v) (hds : Spells (.items ds) w) :
      Spells (.items (d :: ds)) (u ++ t ++ v ++ [code ','] ++ w)
  | lastMember (k : Option String) (d : Draft) (t u v : List UInt8) (hk : Key k t)
      (hd : Spells (.value d) u) (hv : Spaces v) :
      Spells (.members [(k, d)]) (t ++ u ++ v ++ [code '\x7d'])
  | member (k : Option String) (d : Draft) (ms : List (Option String × Draft))
      (t u v w : List UInt8) (hk : Key k t) (hd : Spells (.value d) u) (hv : Spaces v)
      (hms : Spells (.members ms) w) :
      Spells (.members ((k, d) :: ms)) (t ++ u ++ v ++ [code ','] ++ w)

end Grammar

/-- A whole text: a value and white space around it. -/
inductive IsDocument : Draft → List UInt8 → Prop
  | mk (d : Draft) (t u v : List UInt8) (hu : Spaces u) (hd : Grammar.Spells (.value d) t)
      (hv : Spaces v) : IsDocument d (u ++ t ++ v)

end StatusBoard.Json
