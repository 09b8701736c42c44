import StatusBoard.Text.Ascii

/-!
Header fields of messages. A name is the same in letters of either case; blanks around a value do
not belong to it.
-/
namespace StatusBoard.Http

/-- Whether a header value may hold a character. -/
def isFieldChar (c : Char) : Bool :=
  c == '\t' || (32 ≤ c.toNat && c.toNat != 127)

/-- Whether a text may be a header value. -/
def isFieldValue (s : String) : Bool :=
  s.toList.all isFieldChar

def isBlank (c : Char) : Bool := c == ' ' || c == '\t'

/-- A value without the blanks around it. -/
def bare (s : String) : String :=
  String.ofList ((s.toList.dropWhile isBlank).reverse.dropWhile isBlank).reverse

/-- Header fields in their order. -/
abbrev Headers := List (String × String)

namespace Headers

/-- The value of the first field of a name given in lower case. -/
def value? (hs : Headers) (name : String) : Option String :=
  (hs.find? fun h => Text.asciiLower h.1 = name).map fun h => bare h.2

/-- A field, its name given in lower case, in place of all fields of this name. -/
def put (hs : Headers) (name value : String) : Headers :=
  (hs.filter fun h => Text.asciiLower h.1 ≠ name) ++ [(name, value)]

end Headers

end StatusBoard.Http
