import Std.Data.ExtHashMap
import StatusBoard.Board.Plan
import StatusBoard.Board.Renderer
import StatusBoard.Text.Quoted

/-!
The board: the entries of all services that any snapshot listed, in the order of their creation.
A pass reconciles the board with one snapshot: it plans, creates all new entries and then updates
the others. No entry is ever removed.
-/
namespace StatusBoard

/-- What a pass did. -/
structure Outcome where
  creates : List Service
  updates : List Service
  counts : Counts
deriving DecidableEq, Repr

/-- The state of the board. The counts, the client and the time are those of the last pass. -/
structure Board where
  entries : Std.ExtHashMap String Entry
  /-- Names in the order of creation. -/
  order : List String
  clientId : Option String
  counts : Counts
  passes : Nat
  /-- Seconds since 1970. -/
  reconciledAt : Option Nat

namespace Board

/-- A board before any pass. -/
def empty : Board where
  entries := ∅
  order := []
  clientId := none
  counts := .zero
  passes := 0
  reconciledAt := none

variable {m : Type → Type} [Monad m]

/-- Whether the board has an entry of a name. -/
def contains (b : Board) (name : String) : Bool :=
  b.entries.contains name

def entry? (b : Board) (name : String) : Option Entry :=
  b.entries[name]?

/-- The number of entries. -/
def size (b : Board) : Nat :=
  b.entries.size

/-- The entries in the order of their creation. -/
def listed (b : Board) : List Entry :=
  b.order.filterMap b.entry?

/-- Adds an entry for a service. -/
def create (r : Renderer m) (pass : Nat) (b : Board) (s : Service) : m Board := do
  let markup ← r.apis s
  pure { b with
    order := b.order ++ [s.name]
    entries := b.entries.insert s.name (.create s markup pass) }

/-- Updates the entry of a service, if there is one. -/
def update (pass : Nat) (b : Board) (s : Service) : Board :=
  match b.entry? s.name with
  | some e => { b with entries := b.entries.insert s.name (e.apply s pass) }
  | none => b

/-- The plan of a pass on this board. -/
def plan (b : Board) (snapshot : Snapshot) : Plan :=
  Plan.make b.contains snapshot

/-- One pass at a given time. -/
def reconcile (r : Renderer m) (now : Nat) (b : Board) (snapshot : Snapshot) :
    m (Board × Outcome) := do
  let plan := b.plan snapshot
  let pass := b.passes + 1
  let created ← plan.creates.foldlM (create r pass) b
  let updated := plan.updates.foldl (update pass) created
  pure ({ updated with
      clientId := some snapshot.clientId
      counts := plan.counts
      passes := pass
      reconciledAt := some now },
    ⟨plan.creates, plan.updates, plan.counts⟩)

/-- The numbers of a board as one line, for diagnosis. -/
def summary (b : Board) : String :=
  let names := ", ".intercalate (b.order.map Text.quoted)
  "Reconciler \x7b entries: [" ++ names ++ "], counts: AggregateCounts \x7b total: " ++
    toString b.counts.total ++ ", healthy: " ++ toString b.counts.healthy ++ ", unhealthy: " ++
    toString b.counts.unhealthy ++ ", unknown: " ++ toString b.counts.unknown ++
    " \x7d, passes: " ++ toString b.passes ++ " \x7d"

end Board

end StatusBoard
