import StatusBoard.Board.Basic

/-!
What is measured while polling. A counter or gauge shows up once it was first touched.
-/
namespace StatusBoard

/-- The measurements so far; none stands for one that was never touched. -/
structure Metrics where
  fetchesOk : Option Nat
  fetchesFailed : Option Nat
  /-- Fetches whose duration was taken. -/
  fetchesTimed : Option Nat
  creates : Option Nat
  updates : Option Nat
  services : Option Counts
  entries : Option Nat
deriving DecidableEq, Repr

namespace Metrics

def none : Metrics := ⟨.none, .none, .none, .none, .none, .none, .none⟩

/-- Adds to a counter. -/
def increased (counter : Option Nat) (n : Nat) : Option Nat :=
  some (counter.getD 0 + n)

/-- Takes down one fetch. -/
def recordFetch (x : Metrics) (ok : Bool) : Metrics :=
  let x := { x with fetchesTimed := increased x.fetchesTimed 1 }
  if ok then { x with fetchesOk := increased x.fetchesOk 1 }
  else { x with fetchesFailed := increased x.fetchesFailed 1 }

/-- Takes down a pass and the size of the board after it. -/
def recordPass (x : Metrics) (o : Outcome) (size : Nat) : Metrics :=
  { x with
    creates := increased x.creates o.creates.length
    updates := increased x.updates o.updates.length
    services := some o.counts
    entries := some size }

/-- A line of a series, if it was touched. -/
def sample (series : String) (value : Option Nat) : List String :=
  match value with
  | .none => []
  | some n => [series ++ " " ++ toString n]

/-- All lines in alphabetical order. -/
def samples (x : Metrics) : List String :=
  sample "dashboard_entries" x.entries ++
    sample "dashboard_entry_actions_total\x7baction=\"create\"\x7d" x.creates ++
    sample "dashboard_entry_actions_total\x7baction=\"update\"\x7d" x.updates ++
    sample "dashboard_fetch_duration_seconds_count" x.fetchesTimed ++
    sample "dashboard_fetch_total\x7boutcome=\"error\"\x7d" x.fetchesFailed ++
    sample "dashboard_fetch_total\x7boutcome=\"ok\"\x7d" x.fetchesOk ++
    sample "dashboard_services\x7bstate=\"healthy\"\x7d" (x.services.map (·.healthy)) ++
    sample "dashboard_services\x7bstate=\"total\"\x7d" (x.services.map (·.total)) ++
    sample "dashboard_services\x7bstate=\"unhealthy\"\x7d" (x.services.map (·.unhealthy)) ++
    sample "dashboard_services\x7bstate=\"unknown\"\x7d" (x.services.map (·.unknown))

end Metrics

end StatusBoard
