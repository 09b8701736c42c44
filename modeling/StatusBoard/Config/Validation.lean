import StatusBoard.Config.Basic
import StatusBoard.Gateway.Endpoint
import StatusBoard.SocketAddress
import StatusBoard.Text.Ascii
import StatusBoard.Text.Blank

/-!
Checks on a configuration. All violated ones are reported, in a fixed order; what belongs to a
server or a metrics endpoint that is off is not checked.
-/
namespace StatusBoard

/-- A violated check. -/
inductive Violation where
  | invalidBaseUrl (url : String)
  | emptyStatusPath
  | invalidStatusPath (path : String)
  /-- A time that must not be zero. -/
  | zero (setting : String)
  | invalidAddress (setting : String) (value : String)
  | invalidLogLevel (level : String)
deriving DecidableEq, Repr

namespace Violation

def message : Violation → String
  | .invalidBaseUrl url => s!"source.base_url '{url}' is not an absolute http(s) URL"
  | .emptyStatusPath => "source.status_path must not be empty"
  | .invalidStatusPath path => s!"source.status_path '{path}' does not resolve against base_url"
  | .zero setting => s!"{setting} must be greater than zero"
  | .invalidAddress setting value => s!"{setting} '{value}' is not a valid socket address"
  | .invalidLogLevel level =>
    s!"observability.log_level '{level}' is not one of trace, debug, info, warn, error"

/-- The text of a list of violations. -/
def summary (vs : List Violation) : String :=
  "Validation failed: " ++ ", ".intercalate (vs.map message)

end Violation

namespace Config

/-- A violation if the check fails. -/
def check (ok : Bool) (v : Violation) : List Violation :=
  if ok then [] else [v]

/-- Whether a status path resolves; against a base that is no URL nothing is asked of it. -/
def resolves (baseUrl statusPath : String) : Bool :=
  match Url.parse baseUrl, statusUrl baseUrl statusPath with
  | .ok _, .error _ => false
  | _, _ => true

def statusPathViolations (s : SourceConfig) : List Violation :=
  if Text.isBlankText s.statusPath then [.emptyStatusPath]
  else check (resolves s.baseUrl s.statusPath) (.invalidStatusPath s.statusPath)

def logLevels : List String := ["trace", "debug", "info", "warn", "error"]

def isAddress (s : String) : Bool := (SocketAddress.parse? s).isSome

/-- The violated checks. -/
def violations (c : Config) : List Violation :=
  check (Url.isHttpText c.source.baseUrl) (.invalidBaseUrl c.source.baseUrl) ++
    statusPathViolations c.source ++
    check (c.source.timeoutMs != 0) (.zero "source.timeout_ms") ++
    check (c.refresh.intervalMs != 0) (.zero "refresh.interval_ms") ++
    (if c.server.enabled then
      check (isAddress c.server.bindAddress)
        (.invalidAddress "server.bind_address" c.server.bindAddress) ++
      check (c.server.requestTimeoutSecs != 0) (.zero "server.request_timeout_secs")
    else []) ++
    (if c.observability.metricsEnabled then
      check (isAddress c.observability.metricsAddress)
        (.invalidAddress "observability.metrics_address" c.observability.metricsAddress)
    else []) ++
    check (logLevels.contains (Text.asciiLower c.observability.logLevel))
      (.invalidLogLevel c.observability.logLevel)

/-- A configuration that violates no check. -/
def validate (c : Config) : Except (List Violation) Unit :=
  match c.violations with
  | [] => .ok ()
  | vs => .error vs

end Config

end StatusBoard
