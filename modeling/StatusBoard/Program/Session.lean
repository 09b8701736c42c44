import StatusBoard.Program.Once
import StatusBoard.Program.Serve

/-!
A whole run in its surroundings, with what happens to it while it serves: how many passes are waited
for, what is asked, and the signal that ends it.
-/
namespace StatusBoard.Program

open Gateway (Answer Fetcher)

/-- What happens to a run that serves. -/
structure Session where
  /-- Passes to wait for before anything is asked. -/
  passes : Nat
  /-- Fetches to wait for at most. -/
  fetches : Nat
  questions : List Question
  signal : SystemSignal
  /-- Whether someone else listens at the address of the board. -/
  isTaken : Bool

variable {m : Type → Type} [Monad m]

namespace Service

/-- Fetches until enough passes are done. The first fetch is made in any case; if no pass is waited
for and it runs out of time, it is still under way when things go on. -/
def poll? (send : Gateway.Request → m Answer) (now : Nat) (f : Fetcher) (passes : Nat) :
    Nat → Service → m Service
  | 0, s => pure s
  | left + 1, s => do
    let fetched ← f.fetch send
    let begun := s.poll now .tick
    match passes, fetched with
    | 0, .error (.timeout _) => pure begun
    | _, _ =>
      let s := begun.poll now (.answer fetched)
      if passes ≤ s.poller.poller.board.passes then pure s
      else poll? send now f passes left s

end Service

/-- A run that serves, under a configuration in effect. -/
def serve (send : Gateway.Request → m Answer) (now : Nat) (fresh : String) (c : Config)
    (x : Session) : m Report :=
  match Fetcher.ofConfig c.source with
  | .error e => pure (.failed (.fetch e) [startLine c])
  | .ok f =>
    if x.isTaken ∧ c.server.enabled then
      pure (.failed .addressTaken ([startLine c, f.readyLine] ++ Service.openingLog c))
    else do
      let polled ← (Service.start c).poll? send now f x.passes x.fetches
      let asked := x.questions.foldl (Service.ask fresh) polled
      pure ((asked.signal now x.signal).report [startLine c, f.readyLine])

/-- A run from its command line on. The log is filtered as the environment asks, else by the
configured level. -/
def run (send : Gateway.Request → m Answer) (now : Nat) (fresh : String) (s : Surroundings)
    (x : Session) : m Report :=
  match s.effective with
  | .error e => pure (.failed e [])
  | .ok (a, c) => do
    let filter := Log.Filter.ofEnvironment (s.«variables» "RUST_LOG") c.observability.logLevel
    let report ← if a.once then once send now c else serve send now fresh c x
    pure (report.filtered filter)

end StatusBoard.Program
