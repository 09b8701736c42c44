import StatusBoard.Poller.Basic

/-!
A run of the poller: it waits for its clock, fetches, takes in the answer and waits again, until it
is told to stop. A stop in the middle of a fetch abandons it.
-/
namespace StatusBoard.Poller

/-- What a running poller is at. -/
inductive Phase where
  | waiting
  | fetching
  | left
deriving DecidableEq, Repr

/-- What happens to a running poller. -/
inductive Event where
  | tick
  | answer (a : Except FetchError Snapshot)
  /-- The signal to stop, or the loss of everyone who could give it. -/
  | stop

/-- A running poller and its log. -/
structure Run where
  poller : Poller
  phase : Phase
  log : List Log.Line

namespace Run

/-- The time between two fetches, at least a millisecond. -/
def period (milliseconds : Nat) : Nat :=
  max milliseconds 1

def startLine (milliseconds : Nat) : Log.Line :=
  ⟨.info, target, "Status poller starting", [("interval_ms", .number (period milliseconds))]⟩

def stopLine : Log.Line :=
  ⟨.info, target, "Status poller received shutdown signal, exiting loop", []⟩

def abandonLine : Log.Line :=
  ⟨.info, target, "Status poller received shutdown signal mid-fetch, abandoning pass", []⟩

/-- A run that has just begun. -/
def start (milliseconds : Nat) : Run :=
  ⟨.start, .waiting, [startLine milliseconds]⟩

/-- Takes in an event; one that cannot happen in this phase changes nothing. -/
def step (r : Renderer Id) (now : Nat) (x : Run) : Event → Run
  | .tick =>
    match x.phase with
    | .waiting => { x with phase := .fetching }
    | _ => x
  | .answer a =>
    match x.phase with
    | .fetching =>
      let (poller, outcome) := x.poller.poll r now a
      ⟨poller, .waiting, x.log ++ x.poller.journal a outcome⟩
    | _ => x
  | .stop =>
    match x.phase with
    | .waiting => { x with phase := .left, log := x.log ++ [stopLine] }
    | .fetching => { x with phase := .left, log := x.log ++ [abandonLine] }
    | .left => x

end Run

end StatusBoard.Poller
