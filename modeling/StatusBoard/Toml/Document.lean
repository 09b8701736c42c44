import StatusBoard.Toml.Scalar
import StatusBoard.Toml.Table

/-!
Reading a TOML 1.0 document: one table, whose members stand in the order of the text.
-/
namespace StatusBoard.Toml

open Lexical

namespace Compound

/-- The items of an array after its bracket, up to the closing one. -/
def items (value : Reader Value) : Nat → Reader (List Value)
  | 0, _ => none
  | fuel + 1, cs =>
    match skipLines cs.length cs with
    | ']' :: r => some ([], r)
    | cs => do
      let (v, r) ← value cs
      match skipLines r.length r with
      | ',' :: r => do
        let (vs, r) ← items value fuel r
        some (v :: vs, r)
      | ']' :: r => some ([v], r)
      | _ => none

/-- The members of an inline table, of which there is at least one, up to the closing brace. -/
def members (value : Reader Value) : Nat → Entries → Reader Entries
  | 0, _, _ => none
  | fuel + 1, es, cs => do
    let (ks, r) ← key cs
    let k ← ks.getLast?
    let r ← Scalar.expect '=' r
    let (v, r) ← value (skipBlanks r)
    let es ← es.put ks.dropLast k v
    match skipBlanks r with
    | ',' :: r => members value fuel es r
    | '\x7d' :: r => some (es, r)
    | _ => none

/-- A value with at most `depth` arrays and inline tables open. -/
def value (depth : Nat) (cs : List Char) : Option (Value × List Char) :=
  match depth, cs with
  | _, '"' :: _ => (string cs).map fun (s, r) => (.string s, r)
  | _, '\'' :: _ => (string cs).map fun (s, r) => (.string s, r)
  | 0, '[' :: _ => none
  | 0, '\x7b' :: _ => none
  | depth + 1, '[' :: r =>
    (items (value depth) (r.length + 1) r).map fun (vs, r) => (.array vs, r)
  | depth + 1, '\x7b' :: r =>
    match skipBlanks r with
    | '\x7d' :: r => some (.table [], r)
    | r => (members (value depth) (r.length + 1) [] r).map fun (es, r) =>
        (.table (Entries.membersOf es), r)
  | _, cs => Scalar.read cs

end Compound

/-- A line of a document that says something. -/
inductive Line where
  /-- A key with its value. -/
  | pair (key : List String) (v : Value)
  /-- The header of a table. -/
  | table (path : List String)
  /-- The header of a table of an array. -/
  | row (path : List String)

namespace Line

/-- A key with its value, and the end of the line. -/
def readPair (cs : List Char) : Option (Line × List Char) := do
  let (ks, r) ← key cs
  let r ← Scalar.expect '=' r
  let (v, r) ← Compound.value (depthLimit - 1) (skipBlanks r)
  some (.pair ks v, ← lineEnd? r)

/-- A header after its opening bracket, and the end of the line. -/
def readHeader : List Char → Option (Line × List Char)
  | '[' :: cs => do
    let (ks, r) ← key cs
    some (.row ks, ← lineEnd? (← Scalar.expect ']' (← Scalar.expect ']' r)))
  | cs => do
    let (ks, r) ← key cs
    some (.table ks, ← lineEnd? (← Scalar.expect ']' r))

/-- The lines of a text; blank lines and comments say nothing. -/
def readAll : Nat → List Char → Option (List Line)
  | 0, _ => none
  | fuel + 1, cs =>
    match skipBlanks cs with
    | [] => some []
    | '#' :: r => do readAll fuel (← lineEnd? ('#' :: r))
    | '\n' :: r => readAll fuel r
    | '\r' :: '\n' :: r => readAll fuel r
    | '[' :: r => do
      let (l, r) ← readHeader r
      some (l :: (← readAll fuel r))
    | cs => do
      let (l, r) ← readPair cs
      some (l :: (← readAll fuel r))

end Line

namespace Draft

/-- Takes in a line. -/
def take (d : Draft) : Line → Option Draft
  | .pair key v => d.put key v
  | .table path => d.openTable path
  | .row path => d.openRow path

end Draft

/-- The text without a byte order mark in front. -/
def withoutMark : List Char → List Char
  | '\ufeff' :: r => r
  | cs => cs

/-- The lines of a document; none if one of them breaks the grammar. -/
def lines (s : String) : Option (List Line) :=
  let cs := withoutMark s.toList
  Line.readAll (cs.length + 1) cs

/-- The names of the table that lines build up; none if one of them does not fit those before. -/
def build (ls : List Line) : Option Entries := do
  let d ← ls.foldlM Draft.take .empty
  d.finish

/-- Reads a document; none if it is no TOML. -/
def parse (s : String) : Option Value := do
  let es ← build (← lines s)
  some (.table (Entries.membersOf es))

end StatusBoard.Toml
