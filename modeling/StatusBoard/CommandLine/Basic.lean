/-!
What a command line says: values for four parameters, which environment variables may also give,
and whether to fetch only once.
-/
namespace StatusBoard

/-- The options that take a value. -/
inductive Parameter where
  | config
  | baseUrl
  | intervalMs
  | bind
deriving DecidableEq, Repr

namespace Parameter

/-- All of them, in the order in which the environment is asked. -/
def all : List Parameter := [.config, .baseUrl, .intervalMs, .bind]

/-- The name after two dashes. -/
def name : Parameter → String
  | .config => "config"
  | .baseUrl => "base-url"
  | .intervalMs => "interval-ms"
  | .bind => "bind"

/-- The environment variable that stands in for the option. -/
def environmentName : Parameter → String
  | .config => "REVOLVER_DASHBOARD_CONFIG"
  | .baseUrl => "REVOLVER_BASE_URL"
  | .intervalMs => "REVOLVER_REFRESH_MS"
  | .bind => "REVOLVER_DASHBOARD_BIND"

def ofName? (s : String) : Option Parameter :=
  all.find? fun p => p.name = s

end Parameter

/-- Why a command line is not followed. -/
inductive UsageError where
  | unknownArgument
  | missingValue (p : Parameter)
  /-- An empty path to the configuration. -/
  | emptyPath
  | badNumber
  | repeated
  /-- A value for an option that takes none. -/
  | unneededValue
  /-- Help is asked for, which ends the run without a failure. -/
  | help
deriving DecidableEq, Repr

namespace UsageError

def exitCode : UsageError → Nat
  | .help => 0
  | _ => 2

end UsageError

/-- What a command line and the environment give. -/
structure Arguments where
  config : Option String := none
  baseUrl : Option String := none
  intervalMs : Option UInt64 := none
  bind : Option String := none
  once : Bool := false
deriving DecidableEq, Repr

namespace Arguments

/-- Whether a parameter is given. -/
def gives (a : Arguments) : Parameter → Bool
  | .config => a.config.isSome
  | .baseUrl => a.baseUrl.isSome
  | .intervalMs => a.intervalMs.isSome
  | .bind => a.bind.isSome

/-- A number below 2^64 in decimal digits, after an optional plus sign. -/
def number? (s : String) : Option UInt64 :=
  let digits := match s.toList with
    | '+' :: r => r
    | r => r
  if digits = [] ∨ ¬ digits.all Char.isDigit then none
  else
    let n := digits.foldl (fun n d => 10 * n + (d.toNat - '0'.toNat)) 0
    if n < UInt64.size then some (.ofNat n) else none

/-- Gives a parameter a value. -/
def put (a : Arguments) (p : Parameter) (v : String) : Except UsageError Arguments :=
  match p with
  | .config => if v = "" then .error .emptyPath else .ok { a with config := some v }
  | .baseUrl => .ok { a with baseUrl := some v }
  | .intervalMs =>
    match number? v with
    | none => .error .badNumber
    | some n => .ok { a with intervalMs := some n }
  | .bind => .ok { a with bind := some v }

/-- Gives a parameter the value of its option, which may be there only once. -/
def putOnce (a : Arguments) (p : Parameter) (v : String) : Except UsageError Arguments :=
  if a.gives p then .error .repeated else a.put p v

end Arguments

end StatusBoard
