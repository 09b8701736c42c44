import StatusBoard.Html.Escape

/-!
Markup as a tree. Texts and attribute values are escaped when the tree is written, and nowhere
else; `raw` holds markup that was written before.
-/
namespace StatusBoard.Html

inductive Node where
  | text (s : String)
  | raw (s : String)
  | element (name : String) (attributes : List (String × String)) (children : List Node)
  /-- An element without content and without an end tag. -/
  | void (name : String) (attributes : List (String × String))

namespace Node

/-- An attribute, after a space. -/
def writeAttribute (a : String × String) : List Char :=
  [' '] ++ a.1.toList ++ ['=', '"'] ++ escape a.2.toList ++ ['"']

/-- A start tag. -/
def writeTag (name : String) (attributes : List (String × String)) : List Char :=
  ['<'] ++ name.toList ++ attributes.flatMap writeAttribute ++ ['>']

mutual

/-- The markup of a node. -/
def write : Node → List Char
  | .text s => escape s.toList
  | .raw s => s.toList
  | .element name attributes children =>
    writeTag name attributes ++ writeAll children ++ ['<', '/'] ++ name.toList ++ ['>']
  | .void name attributes => writeTag name attributes

/-- The markup of nodes one after another. -/
def writeAll : List Node → List Char
  | [] => []
  | n :: ns => write n ++ writeAll ns

end

/-- Nodes one after another, as a text. -/
def markup (ns : List Node) : String :=
  String.ofList (writeAll ns)

end Node

end StatusBoard.Html
