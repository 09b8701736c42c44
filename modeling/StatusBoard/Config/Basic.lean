/-!
The configuration: where the status document comes from, how often it is fetched, where the board
is served, and what is logged and measured. Every field has a default.
-/
namespace StatusBoard

/-- The version of this program. -/
def version : String := "0.1.0"

/-- Where the status document comes from. -/
structure SourceConfig where
  baseUrl : String := "http://127.0.0.1:8080/revolver/"
  /-- Resolved against the base URL. -/
  statusPath : String := "v1/metadata/status"
  /-- The time that one fetch may take. -/
  timeoutMs : UInt64 := 3000
  userAgent : String := "revolver-dashboard/" ++ version
deriving DecidableEq, Repr

/-- How often the status document is fetched. -/
structure RefreshConfig where
  intervalMs : UInt64 := 5000
deriving DecidableEq, Repr

/-- Where the board is served, if at all. -/
structure ServerConfig where
  enabled : Bool := true
  bindAddress : String := "127.0.0.1:8090"
  requestTimeoutSecs : UInt64 := 10
deriving DecidableEq, Repr

/-- What is logged and where measurements are served, if at all. -/
structure ObservabilityConfig where
  logLevel : String := "info"
  metricsEnabled : Bool := false
  metricsAddress : String := "127.0.0.1:9090"
deriving DecidableEq, Repr

/-- The whole configuration. -/
structure Config where
  source : SourceConfig := {}
  refresh : RefreshConfig := {}
  server : ServerConfig := {}
  observability : ObservabilityConfig := {}
deriving DecidableEq, Repr

end StatusBoard
