/-!
JSON values and their compact text: no white space, members in the order given, and inside a
text only quotes, backslashes and control characters behind a backslash.
-/
namespace StatusBoard.Json

/-- A value whose numbers are natural. -/
inductive Value where
  | null
  | bool (b : Bool)
  | number (n : Nat)
  | string (s : String)
  | array (items : List Value)
  | object (members : List (String × Value))

namespace Value

/-- The four hexadecimal digits of a code below 65536. -/
def fourHex (n : Nat) : List Char :=
  [n / 4096 % 16, n / 256 % 16, n / 16 % 16, n % 16].map Nat.digitChar

/-- One character of a text. -/
def escapeChar (c : Char) : List Char :=
  if c = '"' then ['\\', '"']
  else if c = '\\' then ['\\', '\\']
  else if c = '\x08' then ['\\', 'b']
  else if c = '\t' then ['\\', 't']
  else if c = '\n' then ['\\', 'n']
  else if c = '\x0c' then ['\\', 'f']
  else if c = '\r' then ['\\', 'r']
  else if c.toNat < 0x20 then ['\\', 'u'] ++ fourHex c.toNat
  else [c]

/-- A text in quotes. -/
def writeString (s : String) : List Char :=
  ['"'] ++ s.toList.flatMap escapeChar ++ ['"']

mutual

/-- The text of a value. -/
def write : Value → List Char
  | .null => "null".toList
  | .bool true => "true".toList
  | .bool false => "false".toList
  | .number n => Nat.toDigits 10 n
  | .string s => writeString s
  | .array [] => ['[', ']']
  | .array (v :: vs) => ['['] ++ write v ++ writeItems vs ++ [']']
  | .object [] => ['\x7b', '\x7d']
  | .object ((k, v) :: ms) =>
    ['\x7b'] ++ writeString k ++ [':'] ++ write v ++ writeMembers ms ++ ['\x7d']

/-- The further items of an array, each after a comma. -/
def writeItems : List Value → List Char
  | [] => []
  | v :: vs => [','] ++ write v ++ writeItems vs

/-- The further members of an object, each after a comma. -/
def writeMembers : List (String × Value) → List Char
  | [] => []
  | (k, v) :: ms => [','] ++ writeString k ++ [':'] ++ write v ++ writeMembers ms

end

/-- The text of a value. -/
def text (v : Value) : String :=
  String.ofList v.write

/-- A text, or null. -/
def ofOption (s : Option String) : Value :=
  match s with
  | none => .null
  | some s => .string s

end Value

end StatusBoard.Json
