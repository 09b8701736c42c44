import StatusBoard.Toml.Value

/-!
The parts of TOML below values: blanks, line ends, comments, digits, texts and bare keys. A reader
takes characters and gives what it read with the characters that follow; none means that the text
breaks the grammar.
-/
namespace StatusBoard.Toml

/-- A reader of something from the front of a text. -/
abbrev Reader (α : Type) := List Char → Option (α × List Char)

namespace Lexical

def isBlank (c : Char) : Bool := c == ' ' || c == '\t'

/-- The rest after spaces and tabs. -/
def skipBlanks (cs : List Char) : List Char := cs.dropWhile isBlank

/-- The rest after a line feed, with or without a carriage return before it. -/
def newline? : List Char → Option (List Char)
  | '\n' :: r => some r
  | '\r' :: '\n' :: r => some r
  | _ => none

/-- Characters of comments: all but controls; the tab is allowed. -/
def isCommentChar (c : Char) : Bool :=
  c == '\t' || (0x20 ≤ c.toNat && c.toNat != 0x7f)

/-- The rest after a comment, if there is one. -/
def skipComment : List Char → List Char
  | '#' :: r => r.dropWhile isCommentChar
  | cs => cs

/-- The rest of a line that holds nothing more but blanks and a comment. -/
def lineEnd? (cs : List Char) : Option (List Char) :=
  match skipComment (skipBlanks cs) with
  | [] => some []
  | cs => newline? cs

/-- The rest after blanks, comments and line ends, of which there are at most `fuel`. -/
def skipLines : Nat → List Char → List Char
  | 0, cs => cs
  | fuel + 1, cs =>
    match newline? (skipComment (skipBlanks cs)) with
    | some r => skipLines fuel r
    | none => skipBlanks cs

/-- Digits, between which single underscores may stand; the first one was read. -/
def moreDigits (isDigit : Char → Bool) : Reader (List Char)
  | [] => some ([], [])
  | ['_'] => none
  | '_' :: c :: r =>
    if isDigit c then (moreDigits isDigit r).map fun (ds, r) => (c :: ds, r) else none
  | c :: r =>
    if isDigit c then (moreDigits isDigit r).map fun (ds, r) => (c :: ds, r)
    else some ([], c :: r)

/-- At least one digit, with underscores. -/
def digits (isDigit : Char → Bool) : Reader (List Char)
  | [] => none
  | c :: r =>
    if isDigit c then (moreDigits isDigit r).map fun (ds, r) => (c :: ds, r) else none

/-- The value of a hexadecimal digit. -/
def hexValue (c : Char) : Nat :=
  if c.isDigit then c.toNat - '0'.toNat
  else if 'a' ≤ c && c ≤ 'f' then c.toNat - 'a'.toNat + 10
  else c.toNat - 'A'.toNat + 10

def isHexDigit (c : Char) : Bool :=
  c.isDigit || ('a' ≤ c && c ≤ 'f') || ('A' ≤ c && c ≤ 'F')

/-- The number that digits of a base spell. -/
def spell (base : Nat) (ds : List Char) : Nat :=
  ds.foldl (fun n d => base * n + hexValue d) 0

/-- The character with a code of so many hexadecimal digits. -/
def coded (count : Nat) : Reader Char := fun cs =>
  let ds := cs.take count
  let n := spell 16 ds
  if ds.length = count ∧ ds.all isHexDigit ∧ n.isValidChar then
    some (Char.ofNat n, cs.drop count)
  else none

/-- What stands for a character after a backslash. -/
def escaped : Reader Char
  | 'b' :: r => some ('\x08', r)
  | 't' :: r => some ('\t', r)
  | 'n' :: r => some ('\n', r)
  | 'f' :: r => some ('\x0c', r)
  | 'r' :: r => some ('\r', r)
  | '"' :: r => some ('"', r)
  | '\\' :: r => some ('\\', r)
  | 'u' :: r => coded 4 r
  | 'U' :: r => coded 8 r
  | _ => none

/-- Characters that stand for themselves in texts: all but controls; the tab is allowed. -/
def isPlain (c : Char) : Bool := isCommentChar c

/-- A text on one line up to the closing double quote. -/
def basic : Nat → Reader (List Char)
  | 0, _ => none
  | fuel + 1, cs =>
    match cs with
    | [] => none
    | '"' :: r => some ([], r)
    | '\\' :: r => do
      let (c, r) ← escaped r
      let (t, r) ← basic fuel r
      some (c :: t, r)
    | c :: r => do
      if isPlain c then
        let (t, r) ← basic fuel r
        some (c :: t, r)
      else none

/-- A text on one line up to the closing single quote, without escapes. -/
def literal : Reader (List Char)
  | [] => none
  | '\'' :: r => some ([], r)
  | c :: r => if isPlain c then (literal r).map fun (t, r) => (c :: t, r) else none

/-- Quotes at the end of a text on many lines: up to two of them belong to the text. -/
def closing (quote : Char) (cs : List Char) : Option (List Char × List Char) :=
  let quotes := cs.takeWhile (· == quote)
  if 3 ≤ quotes.length then
    if quotes.length ≤ 5 then
      some (List.replicate (quotes.length - 3) quote, cs.drop quotes.length)
    else some (List.replicate 2 quote, cs.drop 5)
  else none

/-- The rest after blanks and line ends. -/
def skipSpace : List Char → List Char
  | ' ' :: r => skipSpace r
  | '\t' :: r => skipSpace r
  | '\n' :: r => skipSpace r
  | '\r' :: '\n' :: r => skipSpace r
  | cs => cs

/-- The rest after a backslash at the end of a line: all blanks and line ends are skipped. -/
def lineContinuation? (cs : List Char) : Option (List Char) :=
  (newline? (skipBlanks cs)).map skipSpace

/-- A text on many lines up to three double quotes. -/
def basicLines : Nat → Reader (List Char)
  | 0, _ => none
  | fuel + 1, cs =>
    match cs with
    | [] => none
    | '"' :: r =>
      match closing '"' cs with
      | some (t, r) => some (t, r)
      | none => do
        let (t, r) ← basicLines fuel r
        some ('"' :: t, r)
    | '\\' :: r =>
      match lineContinuation? r with
      | some r => basicLines fuel r
      | none => do
        let (c, r) ← escaped r
        let (t, r) ← basicLines fuel r
        some (c :: t, r)
    | c :: r =>
      match newline? cs with
      | some r => do
        let (t, r) ← basicLines fuel r
        some ('\n' :: t, r)
      | none => do
        if isPlain c then
          let (t, r) ← basicLines fuel r
          some (c :: t, r)
        else none

/-- A text on many lines up to three single quotes, without escapes. -/
def literalLines : Nat → Reader (List Char)
  | 0, _ => none
  | fuel + 1, cs =>
    match cs with
    | [] => none
    | '\'' :: r =>
      match closing '\'' cs with
      | some (t, r) => some (t, r)
      | none => do
        let (t, r) ← literalLines fuel r
        some ('\'' :: t, r)
    | c :: r =>
      match newline? cs with
      | some r => do
        let (t, r) ← literalLines fuel r
        some ('\n' :: t, r)
      | none => do
        if isPlain c then
          let (t, r) ← literalLines fuel r
          some (c :: t, r)
        else none

/-- The rest after a line end right after the opening quotes. -/
def afterOpening (cs : List Char) : List Char :=
  (newline? cs).getD cs

/-- A text of any kind. -/
def string (cs : List Char) : Option (String × List Char) :=
  let fuel := cs.length + 1
  let read := match cs with
    | '"' :: '"' :: '"' :: r => basicLines fuel (afterOpening r)
    | '"' :: r => basic fuel r
    | '\'' :: '\'' :: '\'' :: r => literalLines fuel (afterOpening r)
    | '\'' :: r => literal r
    | _ => none
  read.map fun (t, r) => (String.ofList t, r)

def isBareKeyChar (c : Char) : Bool :=
  c.isAlphanum || c == '-' || c == '_'

/-- One part of a key. -/
def simpleKey (cs : List Char) : Option (String × List Char) :=
  let read := match cs with
    | '"' :: r => basic (cs.length + 1) r
    | '\'' :: r => literal r
    | cs =>
      let t := cs.takeWhile isBareKeyChar
      if t = [] then none else some (t, cs.drop t.length)
  read.map fun (t, r) => (String.ofList t, r)

/-- The parts of a key between points, with blanks around them. -/
def keyParts : Nat → Reader (List String)
  | 0, _ => none
  | fuel + 1, cs => do
    let (k, r) ← simpleKey (skipBlanks cs)
    match skipBlanks r with
    | '.' :: r => do
      let (ks, r) ← keyParts fuel r
      some (k :: ks, r)
    | r => some ([k], r)

/-- Parts that a key may have, and arrays and inline tables that may be open, and one more. -/
def depthLimit : Nat := 80

/-- A key of fewer parts than the limit. -/
def key (cs : List Char) : Option (List String × List Char) := do
  let (ks, r) ← keyParts (cs.length + 1) cs
  if ks.length < depthLimit then some (ks, r) else none

end Lexical

end StatusBoard.Toml
