import StatusBoard.Board.Basic
import StatusBoard.Log.Line

/-!
What a pass writes to the log: a line for each service in the order in which they are handled, and
one for the snapshot.
-/
namespace StatusBoard.Outcome

open Log (Line)

def target : String := "revolver_dashboard::board::reconciler"

def addedLine (s : Service) : Line :=
  ⟨.info, target, "Service added to board",
    [("service", .text s.name), ("status", .word s.health.word),
      ("instances", .number s.instances.toNat), ("apis", .number s.apis.length)]⟩

def updatedLine (s : Service) : Line :=
  ⟨.debug, target, "Service updated",
    [("service", .text s.name), ("status", .word s.health.word),
      ("healthy", .number s.healthy.toNat), ("unhealthy", .number s.unhealthy.toNat)]⟩

def reconciledLine (clientId : String) (o : Outcome) : Line :=
  ⟨.info, target, "Snapshot reconciled",
    [("client_id", .text clientId), ("total", .number o.counts.total),
      ("healthy", .number o.counts.healthy), ("unhealthy", .number o.counts.unhealthy),
      ("unknown", .number o.counts.unknown), ("created", .number o.creates.length),
      ("updated", .number o.updates.length)]⟩

/-- The lines of a pass over a snapshot of the given client. -/
def journal (clientId : String) (o : Outcome) : List Line :=
  o.creates.map addedLine ++ o.updates.map updatedLine ++ [reconciledLine clientId o]

end StatusBoard.Outcome
