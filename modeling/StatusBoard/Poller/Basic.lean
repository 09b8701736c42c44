import StatusBoard.Board.Journal
import StatusBoard.Board.View
import StatusBoard.Gateway.FetchError
import StatusBoard.Poller.Metrics

/-!
The poller owns the board and publishes a view of it after each pass. A failed fetch is no pass: it
leaves the board and the published view as they are.
-/
namespace StatusBoard

/-- A poller between two fetches. -/
structure Poller where
  board : Board
  published : View
  metrics : Metrics

namespace Poller

/-- A poller that has not fetched yet. -/
def start : Poller := ⟨.empty, .empty, .none⟩

/-- Takes in the answer to one fetch, at a given time; none if there was no pass. -/
def poll (r : Renderer Id) (now : Nat) (p : Poller) (answer : Except FetchError Snapshot) :
    Poller × Option Outcome :=
  match answer with
  | .error _ => ({ p with metrics := p.metrics.recordFetch false }, none)
  | .ok snapshot =>
    let (board, outcome) := (p.board.reconcile r now snapshot).run
    ({ board := board
       published := (board.view r).run
       metrics := (p.metrics.recordFetch true).recordPass outcome board.size },
      some outcome)

open Log (Line)

def target : String := "revolver_dashboard::poller::driver"

/-- What one fetch writes to the log. -/
def journal (p : Poller) (answer : Except FetchError Snapshot) (outcome : Option Outcome) :
    List Line :=
  match answer, outcome with
  | .error e, _ =>
    [⟨.warn, target, "Status fetch failed, keeping last known board",
      [("error", .text e.message), ("entries", .number p.board.size)]⟩]
  | .ok snapshot, some o => o.journal snapshot.clientId
  | .ok _, none => []

end Poller

end StatusBoard
