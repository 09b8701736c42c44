import StatusBoard.CommandLine.Override
import StatusBoard.CommandLine.Parser
import StatusBoard.Config.Loading
import StatusBoard.Gateway.FetchError

/-!
The start of a run: from the command line, the environment and the configuration file to the
configuration that is in effect. The file is read unchecked, the command line goes over it, and only
the result is checked.
-/
namespace StatusBoard.Program

/-- Why a run ends early. -/
inductive Failure where
  | usage (e : UsageError)
  | config (e : ConfigError)
  | fetch (e : FetchError)
  /-- An address to listen at is taken. -/
  | addressTaken
deriving DecidableEq, Repr

namespace Failure

def exitCode : Failure → Nat
  | .usage e => e.exitCode
  | _ => 1

end Failure

/-- What a run finds around it. -/
structure Surroundings where
  words : List String
  «variables» : String → Option String
  files : String → FileContent

namespace Surroundings

/-- The configuration before the command line goes over it. -/
def baseConfig (s : Surroundings) (a : Arguments) : Except ConfigError Config :=
  match a.config with
  | none => .ok {}
  | some path => Config.read (s.files path)

/-- The configuration with the command line over it, unchecked. -/
def overridden (s : Surroundings) (a : Arguments) : Except ConfigError Config :=
  (s.baseConfig a).map a.override

/-- The arguments of the run and the configuration in effect. -/
def effective (s : Surroundings) : Except Failure (Arguments × Config) := do
  let a ← (Arguments.parse s.«variables» s.words).mapError .usage
  let c ← ((s.overridden a).bind Config.checked).mapError .config
  .ok (a, c)

end Surroundings

end StatusBoard.Program
