import StatusBoard.Decimal.Shortest

/-!
The values of TOML documents.
-/
namespace StatusBoard.Toml

/-- A floating-point number. -/
inductive Real where
  | finite (negative : Bool) (size : Decimal.Binary64)
  | infinite (negative : Bool)
  | notANumber
deriving DecidableEq, Repr

/-- A value; the members of a table stand in the order of the document. -/
inductive Value where
  | string (s : String)
  | integer (n : Int)
  | float (x : Real)
  | boolean (b : Bool)
  /-- A date, a time or both, as written. -/
  | moment (literal : String)
  | array (items : List Value)
  | table (members : List (String × Value))
deriving Inhabited

namespace Real

/-- Positional text with the fewest digits that read back. -/
def text : Real → String
  | .finite negative size => (if negative then "-" else "") ++ size.shortest.positional
  | .infinite negative => if negative then "-inf" else "inf"
  | .notANumber => "NaN"

end Real

end StatusBoard.Toml
