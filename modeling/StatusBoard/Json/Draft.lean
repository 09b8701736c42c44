import StatusBoard.Json.Numeral

/-!
A JSON text as far as it can be read. Reading stops at the first place that breaks the grammar,
and the draft holds what came before: arrays and objects that were open there are not closed, and
a member whose value did not come has a broken one. Texts keep whether they are proper Unicode and
numbers keep their literal, since neither matters where a value is passed over.
-/
namespace StatusBoard.Json

/-- A value as read. -/
inductive Draft where
  | null
  | bool (b : Bool)
  | number (n : Numeral)
  /-- None stands for a text that is not proper Unicode. -/
  | string (s : Option String)
  | array (items : List Draft) (closed : Bool)
  | object (members : List (Option String × Draft)) (closed : Bool)
  | broken
deriving Inhabited

namespace Draft

mutual

/-- Whether the value can be kept whole: it is complete, its texts and numbers are proper, and
fewer than `budget` arrays and objects are open at a time. -/
def isSound (budget : Nat) : Draft → Bool
  | .null => true
  | .bool _ => true
  | .number n => n.number?.isSome
  | .string s => s.isSome
  | .array items closed => closed && 1 < budget && areSound (budget - 1) items
  | .object members closed => closed && 1 < budget && areSoundMembers (budget - 1) members
  | .broken => false

/-- Whether all items can be kept. -/
def areSound (budget : Nat) : List Draft → Bool
  | [] => true
  | d :: ds => isSound budget d && areSound budget ds

/-- Whether all members can be kept. -/
def areSoundMembers (budget : Nat) : List (Option String × Draft) → Bool
  | [] => true
  | (k, d) :: ms => k.isSome && isSound budget d && areSoundMembers budget ms

end

end Draft

/-- A whole text: its value, and whether nothing but white space follows. -/
structure Document where
  root : Draft
  complete : Bool

end StatusBoard.Json
