import StatusBoard.Board.Journal
import StatusBoard.Board.Listing
import StatusBoard.Gateway.Fetcher
import StatusBoard.Program.Report

/-!
A run that fetches once and prints the board.
-/
namespace StatusBoard.Program

open Gateway (Answer Fetcher)

/-- What comes of the one fetch. -/
def Report.ofFetch (now : Nat) (log : List Log.Line) (fetched : Except FetchError Snapshot) :
    Report :=
  match fetched with
  | .error e => .failed (.fetch e) log
  | .ok snapshot =>
    let (board, outcome) := (Board.empty.reconcile .html now snapshot : Id _).run
    .ofListing (log ++ outcome.journal snapshot.clientId)
      (board.view .html : Id View).run.listing?

variable {m : Type → Type} [Monad m]

/-- A run under a configuration in effect. -/
def once (send : Gateway.Request → m Answer) (now : Nat) (c : Config) : m Report :=
  match Fetcher.ofConfig c.source with
  | .error e => pure (.failed (.fetch e) [startLine c])
  | .ok f => do
    pure (.ofFetch now [startLine c, f.readyLine] (← f.fetch send))

end StatusBoard.Program
