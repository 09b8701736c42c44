import StatusBoard.Log.Filter
import StatusBoard.Program.Start
import StatusBoard.Server.Basic

/-!
What a run does that can be seen from outside.
-/
namespace StatusBoard.Program

/-- An address at which a run listens. -/
inductive Listener where
  | board (address : String)
  | metrics (address : String)
deriving DecidableEq, Repr

/-- What a run sends to someone who asks. -/
inductive Reply where
  | document (r : Server.Response)
  | samples (lines : List String)
deriving DecidableEq, Repr

/-- A run as it is seen from outside. -/
structure Report where
  printed : String := ""
  failure : Option Failure := none
  /-- Whether the run broke off at something that it could not lay out. -/
  crashed : Bool := false
  listeners : List Listener := []
  replies : List Reply := []
  log : List Log.Line := []
deriving DecidableEq, Repr

namespace Report

def exitCode (r : Report) : Nat :=
  match r.failure with
  | none => if r.crashed then 101 else 0
  | some f => f.exitCode

/-- A run that ends with an error after some lines of the log. -/
def failed (f : Failure) (log : List Log.Line) : Report :=
  { failure := some f, log := log }

/-- A run that prints a listing, or breaks off over it. -/
def ofListing (log : List Log.Line) : Option String → Report
  | some text => { printed := text, log := log }
  | none => { crashed := true, log := log }

/-- The report with those lines of the log that a filter shows. -/
def filtered (r : Report) (f : Log.Filter) : Report :=
  { r with log := f.apply r.log }

end Report

open Log (Line)

def target : String := "revolver_dashboard"

def startLine (c : Config) : Line :=
  ⟨.info, target, "revolver-dashboard starting",
    [("version", .word version), ("base_url", .text c.source.baseUrl),
      ("interval_ms", .number c.refresh.intervalMs.toNat)]⟩

def noServerLine : Line := ⟨.info, target, "Board server disabled, polling only", []⟩

def completeLine (entries passes : Nat) : Line :=
  ⟨.info, target, "Shutdown complete", [("entries", .number entries), ("passes", .number passes)]⟩

def metricsLine (address : String) : Line :=
  ⟨.info, "revolver_dashboard::observability::metrics", "Metrics endpoint listening",
    [("address", .text address)]⟩

end StatusBoard.Program
