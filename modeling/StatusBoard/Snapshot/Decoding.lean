import StatusBoard.Json.Reader
import StatusBoard.Record.Field
import StatusBoard.Snapshot.Basic

/-!
Reading a snapshot from a JSON text. Each record is an object, whose unknown members are passed
over, or an array of its fields in order. Everything but a service's name and an API's path may be
left out. The text is read from left to right and the first problem is reported.
-/
namespace StatusBoard

namespace Json.Draft

/-- The kind of a value; a value that is not proper has none. -/
def found? : Draft → Option Found
  | .null => some .null
  | .bool b => some (.flag b)
  | .number n => n.number?.map fun
    | .integer i => .integer i
    | .float negative size => .float (Number.floatText negative size)
  | .string s => s.map .text
  | .array _ _ => some .sequence
  | .object _ _ => some .map
  | .broken => none

/-- The error for a value of the wrong kind. -/
def mismatch (expected : Expected) (d : Draft) : Mismatch :=
  match d.found? with
  | some f => .wrongKind f expected
  | none => .malformed

def text : Draft → Except Mismatch String
  | .string (some s) => .ok s
  | d => .error (d.mismatch .text)

def flag : Draft → Except Mismatch Bool
  | .bool b => .ok b
  | d => .error (d.mismatch .flag)

/-- An integer literal from 0 to `2 ^ 64 - 1`. -/
def count (d : Draft) : Except Mismatch UInt64 :=
  match d.found? with
  | some (.integer i) => if i < 0 then .error (.negative i) else .ok (.ofNat i.toNat)
  | _ => .error (d.mismatch .count)

/-- The items in order, each read by `item`. -/
def list {α : Type} (item : Draft → Except Mismatch α) : Draft → Except Mismatch (List α)
  | .array items closed => do
    let xs ← items.mapM item
    if closed then .ok xs else .error .malformed
  | d => .error (d.mismatch .sequence)

/-- Null stands for `absent`. -/
def orNull {α : Type} (absent : α) (value : Draft → Except Mismatch α) :
    Draft → Except Mismatch α
  | .null => .ok absent
  | d => value d

/-- Puts in one member. A key that is not a proper text belongs to nothing. -/
def putMember {ρ : Type} (fields : List (Field Draft ρ)) (p : Field.Progress ρ)
    (m : Option String × Draft) : Except Mismatch (Field.Progress ρ) :=
  match m.1 with
  | none => .error .malformed
  | some name => Field.put fields p name m.2

/-- A record, filled in from `blank`. -/
def record {ρ : Type} (name : String) (fields : List (Field Draft ρ)) (blank : ρ) :
    Draft → Except Mismatch ρ
  | .array items closed => do
    let r ← Field.putInOrder fields blank items
    if closed = false ∨ fields.length < items.length then .error .malformed
    else match Field.firstAbsent? fields items.length with
      | some place => .error (.tooShort place name fields.length)
      | none => .ok r
  | .object members closed => do
    let p ← members.foldlM (putMember fields) ⟨blank, []⟩
    if closed = false then .error .malformed
    else match Field.missing? fields p.seen with
      | some field => .error (.missingField field)
      | none => .ok p.record
  | d => .error (d.mismatch (.record name))

end Json.Draft

open Json (Draft Document)

/-- A field that may be left out. -/
def optionalField {α ρ : Type} (name : String) (value : Draft → Except Mismatch α)
    (set : ρ → α → ρ) : Field Draft ρ :=
  ⟨name, false, fun r d => (value d).map (set r)⟩

/-- A field that has to be there. -/
def requiredField {α ρ : Type} (name : String) (value : Draft → Except Mismatch α)
    (set : ρ → α → ρ) : Field Draft ρ :=
  ⟨name, true, fun r d => (value d).map (set r)⟩

namespace Api

def blank : Api := ⟨"", [], false, false⟩

def fields : List (Field Draft Api) :=
  [requiredField "path" Draft.text fun a x => { a with path := x },
    optionalField "methods" (Draft.orNull [] (Draft.list Draft.text)) fun a x =>
      { a with methods := x },
    optionalField "secured" Draft.flag fun a x => { a with secured := x },
    optionalField "async" Draft.flag fun a x => { a with async := x }]

def ofDraft : Draft → Except Mismatch Api :=
  Draft.record "ApiDescriptor" fields blank

end Api

/-- Arrays and objects that may be open at a time, and one more. -/
def nestingLimit : Nat := 128

/-- Arrays and objects open around a service's status: the service, the list of services and the
snapshot. -/
def statusDepth : Nat := 3

namespace Health

/-- The health for a status of any kind: only the known words count. -/
def ofDraft (d : Draft) : Except Mismatch Health :=
  if d.isSound (nestingLimit - statusDepth) then
    .ok (match d with
      | .string (some w) => ofWord w
      | _ => .unknown)
  else .error .malformed

end Health

namespace Service

def blank : Service := ⟨"", .unknown, 0, 0, 0, []⟩

def fields : List (Field Draft Service) :=
  [requiredField "name" Draft.text fun s x => { s with name := x },
    optionalField "status" Health.ofDraft fun s x => { s with health := x },
    optionalField "instances" (Draft.orNull 0 Draft.count) fun s x => { s with instances := x },
    optionalField "healthy" (Draft.orNull 0 Draft.count) fun s x => { s with healthy := x },
    optionalField "unhealthy" (Draft.orNull 0 Draft.count) fun s x => { s with unhealthy := x },
    optionalField "apis" (Draft.orNull [] (Draft.list Api.ofDraft)) fun s x =>
      { s with apis := x }]

def ofDraft : Draft → Except Mismatch Service :=
  Draft.record "ServiceStatus" fields blank

end Service

namespace Snapshot

def blank : Snapshot := ⟨"", []⟩

def fields : List (Field Draft Snapshot) :=
  [optionalField "clientId" Draft.text fun s x => { s with clientId := x },
    optionalField "services" (Draft.list Service.ofDraft) fun s x => { s with services := x }]

def ofDraft : Draft → Except Mismatch Snapshot :=
  Draft.record "Snapshot" fields blank

/-- A snapshot from a document that nothing follows. -/
def ofDocument (doc : Document) : Except Mismatch Snapshot := do
  let s ← ofDraft doc.root
  if doc.complete then .ok s else .error .malformed

/-- A snapshot from the bytes of a JSON text. -/
def decode (bytes : List UInt8) : Except Mismatch Snapshot :=
  ofDocument (Document.read bytes)

end Snapshot

end StatusBoard
