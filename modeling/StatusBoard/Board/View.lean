import StatusBoard.Board.Basic
import StatusBoard.Snapshot.Encoding

/-!
What readers see of a board: its state after a whole pass, with each entry's markup.
-/
namespace StatusBoard

/-- An entry as readers see it. -/
structure EntryView where
  name : String
  health : Health
  indicator : Indicator
  instances : UInt64
  healthy : UInt64
  unhealthy : UInt64
  apis : List Api
  markup : String
deriving DecidableEq, Repr

/-- A board as readers see it, entries in the order of their creation. -/
structure View where
  clientId : Option String
  counts : Counts
  entries : List EntryView
  passes : Nat
  reconciledAt : Option Nat
deriving DecidableEq, Repr

namespace EntryView

variable {m : Type → Type} [Monad m]

def ofEntry (r : Renderer m) (e : Entry) : m EntryView := do
  let markup ← r.entry e
  pure {
    name := e.name
    health := e.health
    indicator := e.indicator
    instances := e.instances
    healthy := e.healthy
    unhealthy := e.unhealthy
    apis := e.apis
    markup := markup }

open Json (Value)

/-- The entry without its markup. -/
def toValue (e : EntryView) : Value :=
  .object [("name", .string e.name), ("status", .string e.health.word),
    ("indicator", .string e.indicator.word), ("instances", .number e.instances.toNat),
    ("healthy", .number e.healthy.toNat), ("unhealthy", .number e.unhealthy.toNat),
    ("apis", .array (e.apis.map Api.toValue))]

end EntryView

namespace Counts

open Json (Value)

def toValue (c : Counts) : Value :=
  .object [("total", .number c.total), ("healthy", .number c.healthy),
    ("unhealthy", .number c.unhealthy), ("unknown", .number c.unknown)]

end Counts

namespace View

/-- The view before any pass. -/
def empty : View := ⟨none, .zero, [], 0, none⟩

open Json (Value)

def toValue (v : View) : Value :=
  .object [("client_id", .ofOption v.clientId), ("counts", v.counts.toValue),
    ("entries", .array (v.entries.map EntryView.toValue)), ("passes", .number v.passes),
    ("reconciled_at", match v.reconciledAt with
      | none => .null
      | some t => .number t)]

end View

namespace Board

variable {m : Type → Type} [Monad m]

/-- The view of a board; every entry is rendered once. -/
def view (r : Renderer m) (b : Board) : m View := do
  let entries ← b.listed.mapM (EntryView.ofEntry r)
  pure ⟨b.clientId, b.counts, entries, b.passes, b.reconciledAt⟩

theorem entries_view (r : Renderer Id) (b : Board) :
    (b.view r).run.entries = b.listed.map fun e => (EntryView.ofEntry r e).run :=
  List.idRun_mapM

end Board

end StatusBoard
