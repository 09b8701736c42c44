import StatusBoard.Toml.Value

/-!
Tables while a document is read. A table may come about by a header, only by a longer header, or
by a dotted key; what may still be added to it depends on that. Nothing may be given twice.
-/
namespace StatusBoard.Toml

/-- How a table came about. -/
inductive Standing where
  /-- By its own header or braces. -/
  | stated
  /-- As part of a longer header. -/
  | implied
  /-- As part of a dotted key. -/
  | dotted
deriving DecidableEq, Repr

/-- What a name in a table stands for. -/
inductive Item where
  | value (v : Value)
  | table (standing : Standing) (entries : List (String × Item))
  /-- The tables of an array, each under a header of its own. -/
  | rows (tables : List (List (String × Item)))

/-- The names of a table in the order in which they came. -/
abbrev Entries := List (String × Item)

namespace Entries

def find? (es : Entries) (k : String) : Option Item :=
  es.lookup k

/-- Replaces what a name stands for. -/
def replace (es : Entries) (k : String) (item : Item) : Entries :=
  es.map fun e => if e.1 == k then (k, item) else e

def erase (es : Entries) (k : String) : Entries :=
  es.filter fun e => e.1 != k

/-- Changes the table at a path. Tables on the way that are missing come about with `fresh`; the
last table of an array stands for the array. A dotted key cannot pass a stated table. -/
def modifyAt (fresh : Standing) (change : Standing → Entries → Option Entries) :
    List String → Standing → Entries → Option Entries
  | [], standing, es => change standing es
  | k :: ks, _, es =>
    match find? es k with
    | none => do
      let inner ← modifyAt fresh change ks fresh []
      some (es ++ [(k, .table fresh inner)])
    | some (.value _) => none
    | some (.table standing inner) =>
      if fresh = .dotted ∧ standing = .stated then none
      else do
        let inner ← modifyAt fresh change ks standing inner
        some (replace es k (.table standing inner))
    | some (.rows tables) =>
      match tables.getLast? with
      | none => none
      | some last => do
        let last ← modifyAt fresh change ks .stated last
        some (replace es k (.rows (tables.dropLast ++ [last])))

/-- Adds a name that is not there yet. -/
def add (es : Entries) (k : String) (item : Item) : Option Entries :=
  match find? es k with
  | none => some (es ++ [(k, item)])
  | some _ => none

/-- Puts a value under a key of one or more parts. A dotted key adds to tables of dotted keys
only. -/
def put (es : Entries) (path : List String) (k : String) (v : Value) : Option Entries :=
  modifyAt .dotted (fun standing inner =>
    if (standing = .dotted) ↔ path = [] then none else add inner k (.value v)) path .stated es

mutual

/-- The value of an item. -/
def valueOf : Item → Value
  | .value v => v
  | .table _ es => .table (membersOf es)
  | .rows tables => .array (rowsOf tables)

/-- The members of a table. -/
def membersOf : List (String × Item) → List (String × Value)
  | [] => []
  | (k, item) :: es => (k, valueOf item) :: membersOf es

/-- The tables of an array. -/
def rowsOf : List (List (String × Item)) → List Value
  | [] => []
  | es :: tables => .table (membersOf es) :: rowsOf tables

end

end Entries

/-- A document that is being read: the tables finished so far, and the one under the last header.
The table of the document itself has the empty path. -/
structure Draft where
  root : Entries
  path : List String
  /-- Whether the header was that of an array. -/
  isRow : Bool
  current : Entries

namespace Draft

open Entries

def empty : Draft := ⟨[], [], false, []⟩

/-- Takes in a value under a key. -/
def put (d : Draft) (key : List String) (v : Value) : Option Draft :=
  match key.getLast? with
  | none => none
  | some k => do
    let current ← Entries.put d.current key.dropLast k v
    some { d with current := current }

/-- Files the current table under its header. -/
def finish (d : Draft) : Option Entries :=
  match d.path.getLast? with
  | none => some d.current
  | some k =>
    modifyAt .implied (fun _ es =>
      if d.isRow then
        match find? es k with
        | some (.rows tables) => some (replace es k (.rows (tables ++ [d.current])))
        | _ => none
      else add es k (.table .stated d.current)) d.path.dropLast .stated d.root

/-- Whether the header may open the table that a name stands for: one that only longer headers
implied so far. -/
def implied? : Option Item → Option Entries
  | none => some []
  | some (.table .implied es) => some es
  | some _ => none

/-- Starts the table of a header. What was implied of it is taken up, and it moves to the place of
the header. -/
def openTable (d : Draft) (path : List String) : Option Draft :=
  match path.getLast? with
  | none => none
  | some k => do
    let root ← d.finish
    let taken ← modifyAt .implied (fun _ es => do
      let _ ← implied? (find? es k)
      some (erase es k)) path.dropLast .stated root
    let inner ← implied? (← lookupAt path root)
    some ⟨taken, path, false, inner⟩
where
  /-- What a path stands for; the last table of an array stands for the array. -/
  lookupAt : List String → Entries → Option (Option Item)
    | [], _ => none
    | [k], es => some (find? es k)
    | k :: ks, es =>
      match find? es k with
      | none => some none
      | some (.value _) => none
      | some (.table _ inner) => lookupAt ks inner
      | some (.rows tables) => (tables.getLast?).bind (lookupAt ks)

/-- Starts a table of an array under a header. -/
def openRow (d : Draft) (path : List String) : Option Draft :=
  match path.getLast? with
  | none => none
  | some k => do
    let root ← d.finish
    let root ← modifyAt .implied (fun _ es =>
      match find? es k with
      | none => some (es ++ [(k, .rows [])])
      | some (.rows _) => some es
      | some _ => none) path.dropLast .stated root
    some ⟨root, path, true, []⟩

end Draft

end StatusBoard.Toml
