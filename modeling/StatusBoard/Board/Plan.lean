import Std.Data.ExtHashSet
import StatusBoard.Board.Entry

/-!
Planning a pass: which services of a snapshot get a new entry and which update one. Services are
taken in priority order, the unhealthy before the healthy before the unknown. The first service of
a name that the board does not know creates its entry, every other one updates.
-/
namespace StatusBoard

/-- The services of a snapshot by health, each group in the order of the snapshot. -/
structure Partition where
  unhealthy : List Service
  healthy : List Service
  unknown : List Service
deriving DecidableEq, Repr

namespace Partition

def ofServices (ss : List Service) : Partition where
  unhealthy := ss.filter (·.health = .unhealthy)
  healthy := ss.filter (·.health = .healthy)
  unknown := ss.filter (·.health = .unknown)

def counts (p : Partition) : Counts where
  total := p.unhealthy.length + p.healthy.length + p.unknown.length
  healthy := p.healthy.length
  unhealthy := p.unhealthy.length
  unknown := p.unknown.length

def inPriorityOrder (p : Partition) : List Service :=
  p.unhealthy ++ p.healthy ++ p.unknown

end Partition

/-- The decisions for one snapshot. -/
structure Plan where
  creates : List Service
  updates : List Service
  counts : Counts
deriving DecidableEq, Repr

namespace Plan

/-- Splits services into creates and updates; `created` holds the names that this pass created. -/
def split (known : String → Bool) : List String → List Service → List Service × List Service
  | _, [] => ([], [])
  | created, s :: ss =>
    if known s.name || s.name ∈ created then
      let (creates, updates) := split known created ss
      (creates, s :: updates)
    else
      let (creates, updates) := split known (s.name :: created) ss
      (s :: creates, updates)

/-- The plan for a snapshot when `known` tells which names have entries. -/
def make (known : String → Bool) (snapshot : Snapshot) : Plan :=
  let p := Partition.ofServices snapshot.services
  let (creates, updates) := split known [] p.inPriorityOrder
  ⟨creates, updates, p.counts⟩

/-- Names are keys: those that are equal have equal hashes. -/
instance : EquivBEq String := inferInstance

instance : LawfulHashable String := inferInstance

/-- The plan for a snapshot against a set of names. -/
def against (existing : Std.ExtHashSet String) (snapshot : Snapshot) : Plan :=
  make existing.contains snapshot

end Plan

end StatusBoard
