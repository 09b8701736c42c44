import StatusBoard.Json.Value
import StatusBoard.Snapshot.Basic

/-!
Snapshots as JSON values, with the fields of each record in a fixed order.
-/
namespace StatusBoard

open Json (Value)

namespace Api

def toValue (a : Api) : Value :=
  .object [("path", .string a.path), ("methods", .array (a.methods.map .string)),
    ("secured", .bool a.secured), ("async", .bool a.async)]

end Api

namespace Service

def toValue (s : Service) : Value :=
  .object [("name", .string s.name), ("status", .string s.health.word),
    ("instances", .number s.instances.toNat), ("healthy", .number s.healthy.toNat),
    ("unhealthy", .number s.unhealthy.toNat), ("apis", .array (s.apis.map Api.toValue))]

end Service

namespace Snapshot

def toValue (s : Snapshot) : Value :=
  .object [("clientId", .string s.clientId), ("services", .array (s.services.map Service.toValue))]

/-- The JSON text of a snapshot. -/
def encode (s : Snapshot) : String :=
  s.toValue.text

end Snapshot

end StatusBoard
