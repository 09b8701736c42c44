import StatusBoard.CommandLine.Basic
import StatusBoard.Config.Basic

/-!
A command line over a configuration: each of three settings gives way to its option, and nothing
else changes.
-/
namespace StatusBoard.Arguments

/-- The configuration with what the command line gives in place of its own. -/
def override (a : Arguments) (c : Config) : Config :=
  { c with
    source := { c.source with baseUrl := a.baseUrl.getD c.source.baseUrl }
    refresh := { c.refresh with intervalMs := a.intervalMs.getD c.refresh.intervalMs }
    server := { c.server with bindAddress := a.bind.getD c.server.bindAddress } }

end StatusBoard.Arguments
