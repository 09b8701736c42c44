import StatusBoard.Text.Quoted

/-!
Why a document does not have the shape that was asked for: its grammar breaks, a field is missing
or given twice, or a value is of another kind.
-/
namespace StatusBoard

/-- The kind of a value that was found. -/
inductive Found where
  | null
  | flag (b : Bool)
  | integer (n : Int)
  /-- A floating-point number, by its text. -/
  | float (text : String)
  | text (s : String)
  | sequence
  | map
deriving DecidableEq, Repr

/-- The kind of a value that was asked for. -/
inductive Expected where
  | text
  | flag
  | count
  | sequence
  | record (name : String)
deriving DecidableEq, Repr

/-- Why a value could not be read. -/
inductive Mismatch where
  | malformed
  | missingField (name : String)
  | duplicateField (name : String)
  | tooShort (length : Nat) (name : String) (fields : Nat)
  | wrongKind (found : Found) (expected : Expected)
  /-- An integer that is no count. -/
  | negative (n : Int)
deriving DecidableEq, Repr

namespace Found

def message : Found → String
  | .null => "null"
  | .flag b => s!"boolean `{b}`"
  | .integer n => s!"integer `{n}`"
  | .float t => s!"floating point `{t}`"
  | .text s => "string " ++ Text.quoted s
  | .sequence => "sequence"
  | .map => "map"

end Found

namespace Expected

def message : Expected → String
  | .text => "a string"
  | .flag => "a boolean"
  | .count => "u64"
  | .sequence => "a sequence"
  | .record name => s!"struct {name}"

end Expected

namespace Mismatch

/-- The text of a mismatch; broken grammar has none of its own. -/
def message? : Mismatch → Option String
  | .malformed => none
  | .missingField name => some s!"missing field `{name}`"
  | .duplicateField name => some s!"duplicate field `{name}`"
  | .tooShort length name fields =>
    some s!"invalid length {length}, expected struct {name} with {fields} elements"
  | .wrongKind found expected =>
    some s!"invalid type: {found.message}, expected {expected.message}"
  | .negative n => some s!"invalid value: integer `{n}`, expected u64"

end Mismatch

end StatusBoard
