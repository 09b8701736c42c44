import StatusBoard.Json.Draft
import StatusBoard.Snapshot.Basic
import Mathlib.Data.List.Forall2

/-!
The schema of status documents: which values conform to it and how they read. A record is an object
in which no key of the record comes twice, or an array of its fields in order. Apart from that each
field has its own rule for null and for being left out.
-/
namespace StatusBoard

open Json (Draft Numeral)

namespace Schema

variable {α : Type}

def IsText (d : Draft) (s : String) : Prop := d = .string (some s)

def IsFlag (d : Draft) (b : Bool) : Prop := d = .bool b

/-- A literal without sign, fraction and exponent, for a number of 64 bits. -/
def IsCount (d : Draft) (n : UInt64) : Prop :=
  ∃ ds, d = .number ⟨false, ds, none, none⟩ ∧ Numeral.value ds = n.toNat

/-- Null stands for `absent`. -/
def OrNull (P : Draft → α → Prop) (absent : α) (d : Draft) (x : α) : Prop :=
  d = .null ∧ x = absent ∨ P d x

def ListOf (P : Draft → α → Prop) (d : Draft) (xs : List α) : Prop :=
  ∃ ds, d = .array ds true ∧ List.Forall₂ P ds xs

/-- A value that can be parsed: its texts are proper Unicode and its numbers in range, and at most
`n` arrays and objects are open at a time. -/
inductive Parses : Nat → Draft → Prop
  | null (n : Nat) : Parses n .null
  | bool (n : Nat) (b : Bool) : Parses n (.bool b)
  | number (n : Nat) (l : Numeral) (h : l.number?.isSome = true) : Parses n (.number l)
  | string (n : Nat) (s : String) : Parses n (.string (some s))
  | array (n : Nat) (ds : List Draft) (h : ∀ d ∈ ds, Parses n d) : Parses (n + 1) (.array ds true)
  | object (n : Nat) (ms : List (String × Draft)) (h : ∀ m ∈ ms, Parses n m.2) :
      Parses (n + 1) (.object (ms.map fun m => (some m.1, m.2)) true)

/-- Arrays and objects that may be open at a time. -/
def maxDepth : Nat := 127

/-- The status of a service is any value. It stands inside the service, the list of services and the
snapshot, and only two words mean something. -/
structure IsStatus (d : Draft) (h : Health) : Prop where
  parses : Parses (maxDepth - 3) d
  healthy : h = .healthy ↔ d = .string (some "HEALTHY")
  unhealthy : h = .unhealthy ↔ d = .string (some "UNHEALTHY")

/-- A record with the given keys; an object may have other members. -/
inductive IsRecord (keys : List String) : Draft → Prop
  | object (ms : List (String × Draft)) (honce : ∀ k ∈ keys, (ms.map (·.1)).count k ≤ 1) :
      IsRecord keys (.object (ms.map fun m => (some m.1, m.2)) true)
  | array (ds : List Draft) (hlength : ds.length ≤ keys.length) : IsRecord keys (.array ds true)

/-- The value that a record has for a key. -/
def field? (keys : List String) (d : Draft) (k : String) : Option Draft :=
  match d with
  | .object ms _ => ms.lookup (some k)
  | .array ds _ => (keys.zip ds).lookup k
  | _ => none

def Required (P : Draft → α → Prop) (v : Option Draft) (x : α) : Prop :=
  ∃ d, v = some d ∧ P d x

def Optional (P : Draft → α → Prop) (absent : α) (v : Option Draft) (x : α) : Prop :=
  v = none ∧ x = absent ∨ ∃ d, v = some d ∧ P d x

end Schema

open Schema

namespace Api

def keys : List String := ["path", "methods", "secured", "async"]

structure Conforms (d : Draft) (a : Api) : Prop where
  record : IsRecord keys d
  path : Required IsText (field? keys d "path") a.path
  methods : Optional (OrNull (ListOf IsText) []) [] (field? keys d "methods") a.methods
  secured : Optional IsFlag false (field? keys d "secured") a.secured
  async : Optional IsFlag false (field? keys d "async") a.async

end Api

namespace Service

def keys : List String := ["name", "status", "instances", "healthy", "unhealthy", "apis"]

structure Conforms (d : Draft) (s : Service) : Prop where
  record : IsRecord keys d
  name : Required IsText (field? keys d "name") s.name
  status : Optional IsStatus .unknown (field? keys d "status") s.health
  instances : Optional (OrNull IsCount 0) 0 (field? keys d "instances") s.instances
  healthy : Optional (OrNull IsCount 0) 0 (field? keys d "healthy") s.healthy
  unhealthy : Optional (OrNull IsCount 0) 0 (field? keys d "unhealthy") s.unhealthy
  apis : Optional (OrNull (ListOf Api.Conforms) []) [] (field? keys d "apis") s.apis

end Service

namespace Snapshot

def keys : List String := ["clientId", "services"]

structure Conforms (d : Draft) (s : Snapshot) : Prop where
  record : IsRecord keys d
  clientId : Optional IsText "" (field? keys d "clientId") s.clientId
  services : Optional (ListOf Service.Conforms) [] (field? keys d "services") s.services

end Snapshot

end StatusBoard
