import StatusBoard.Record.Mismatch

/-!
Records filled in field by field. A record starts out blank, with the defaults in it, and each
value of a document is put in by the field it belongs to. Values come by name, in any order, or by
position.
-/
namespace StatusBoard

/-- A field of records `ρ` that is filled in from values `δ`. -/
structure Field (δ ρ : Type) where
  name : String
  required : Bool
  fill : ρ → δ → Except Mismatch ρ

namespace Field

variable {δ ρ : Type}

/-- A record that is being filled in, and the names seen so far. -/
structure Progress (ρ : Type) where
  record : ρ
  seen : List String

/-- Puts in one named value. A name that no field has is passed over. -/
def put (fields : List (Field δ ρ)) (p : Progress ρ) (name : String) (value : δ) :
    Except Mismatch (Progress ρ) :=
  match fields.find? (·.name == name) with
  | none => .ok p
  | some f =>
    if name ∈ p.seen then .error (.duplicateField name)
    else (f.fill p.record value).map fun r => ⟨r, name :: p.seen⟩

/-- The first required field among those that were not given. -/
def missing? (fields : List (Field δ ρ)) (seen : List String) : Option String :=
  (fields.find? fun f => f.required && !(f.name ∈ seen)).map (·.name)

/-- Puts in values by position; values beyond the last field are passed over. -/
def putInOrder (fields : List (Field δ ρ)) (blank : ρ) (values : List δ) : Except Mismatch ρ :=
  (fields.zip values).foldlM (fun r fv => fv.1.fill r fv.2) blank

/-- The place of the first required field beyond the values given. -/
def firstAbsent? (fields : List (Field δ ρ)) (given : Nat) : Option Nat :=
  ((fields.drop given).findIdx? (·.required)).map (· + given)

end Field

end StatusBoard
