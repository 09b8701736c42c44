import StatusBoard.Config.Basic
import StatusBoard.Record.Field
import StatusBoard.Toml.Document

/-!
Reading the configuration from a TOML text. Each section overlays the defaults with what it gives:
by name in a table, by position in an array. Names that are not known are passed over.
-/
namespace StatusBoard

namespace Toml.Value

/-- The kind of a value. A date or a time counts as a table with nothing known in it. -/
def found : Value → Found
  | .string s => .text s
  | .integer n => .integer n
  | .float x => .float x.text
  | .boolean b => .flag b
  | .moment _ => .map
  | .array _ => .sequence
  | .table _ => .map

def text : Value → Except Mismatch String
  | .string s => .ok s
  | v => .error (.wrongKind v.found .text)

def flag : Value → Except Mismatch Bool
  | .boolean b => .ok b
  | v => .error (.wrongKind v.found .flag)

def count : Value → Except Mismatch UInt64
  | .integer n => if n < 0 then .error (.negative n) else .ok (.ofNat n.toNat)
  | v => .error (.wrongKind v.found .count)

/-- A record, overlaid on `defaults`. -/
def record {ρ : Type} (name : String) (fields : List (Field Value ρ)) (defaults : ρ) :
    Value → Except Mismatch ρ
  | .array items => Field.putInOrder fields defaults items
  | .table members =>
    (members.foldlM (fun p m => Field.put fields p m.1 m.2) ⟨defaults, []⟩).map (·.record)
  | .moment _ => .ok defaults
  | v => .error (.wrongKind v.found (.record name))

end Toml.Value

open Toml (Value)

/-- A setting, which may be left out. -/
def setting {α ρ : Type} (name : String) (value : Value → Except Mismatch α) (set : ρ → α → ρ) :
    Field Value ρ :=
  ⟨name, false, fun r v => (value v).map (set r)⟩

namespace SourceConfig

def fields : List (Field Value SourceConfig) :=
  [setting "base_url" Value.text fun c x => { c with baseUrl := x },
    setting "status_path" Value.text fun c x => { c with statusPath := x },
    setting "timeout_ms" Value.count fun c x => { c with timeoutMs := x },
    setting "user_agent" Value.text fun c x => { c with userAgent := x }]

def ofValue : Value → Except Mismatch SourceConfig :=
  Value.record "SourceConfig" fields {}

end SourceConfig

namespace RefreshConfig

def fields : List (Field Value RefreshConfig) :=
  [setting "interval_ms" Value.count fun c x => { c with intervalMs := x }]

def ofValue : Value → Except Mismatch RefreshConfig :=
  Value.record "RefreshConfig" fields {}

end RefreshConfig

namespace ServerConfig

def fields : List (Field Value ServerConfig) :=
  [setting "enabled" Value.flag fun c x => { c with enabled := x },
    setting "bind_address" Value.text fun c x => { c with bindAddress := x },
    setting "request_timeout_secs" Value.count fun c x => { c with requestTimeoutSecs := x }]

def ofValue : Value → Except Mismatch ServerConfig :=
  Value.record "ServerConfig" fields {}

end ServerConfig

namespace ObservabilityConfig

def fields : List (Field Value ObservabilityConfig) :=
  [setting "log_level" Value.text fun c x => { c with logLevel := x },
    setting "metrics_enabled" Value.flag fun c x => { c with metricsEnabled := x },
    setting "metrics_address" Value.text fun c x => { c with metricsAddress := x }]

def ofValue : Value → Except Mismatch ObservabilityConfig :=
  Value.record "ObservabilityConfig" fields {}

end ObservabilityConfig

namespace Config

def fields : List (Field Value Config) :=
  [setting "source" SourceConfig.ofValue fun c x => { c with source := x },
    setting "refresh" RefreshConfig.ofValue fun c x => { c with refresh := x },
    setting "server" ServerConfig.ofValue fun c x => { c with server := x },
    setting "observability" ObservabilityConfig.ofValue fun c x => { c with observability := x }]

/-- The configuration that a document gives. -/
def ofValue : Value → Except Mismatch Config :=
  Value.record "DashboardConfig" fields {}

/-- The configuration that a TOML text gives. -/
def parse (s : String) : Except Mismatch Config :=
  match Toml.parse s with
  | none => .error .malformed
  | some v => ofValue v

end Config

end StatusBoard
