/-!
The status of a gateway's services at one moment: each service with its health, its instance
counts and the APIs it offers.
-/
namespace StatusBoard

/-- Health of a service. -/
inductive Health where
  | healthy
  | unhealthy
  | unknown
deriving DecidableEq, Repr, Inhabited

namespace Health

/-- The health that a gateway's word stands for; a word it does not know stands for unknown. -/
def ofWord (w : String) : Health :=
  if w = "HEALTHY" then .healthy else if w = "UNHEALTHY" then .unhealthy else .unknown

def word : Health → String
  | .healthy => "HEALTHY"
  | .unhealthy => "UNHEALTHY"
  | .unknown => "UNKNOWN"

theorem ofWord_word (h : Health) : ofWord h.word = h := by
  cases h <;> decide

end Health

/-- An API of a service: the path it answers on and the request methods it takes. -/
structure Api where
  path : String
  methods : List String
  secured : Bool
  async : Bool
deriving DecidableEq, Repr, Inhabited

/-- A service. Its name is its key; the counts are of its instances. -/
structure Service where
  name : String
  health : Health
  instances : UInt64
  healthy : UInt64
  unhealthy : UInt64
  apis : List Api
deriving DecidableEq, Repr, Inhabited

/-- A status document. -/
structure Snapshot where
  clientId : String
  services : List Service
deriving DecidableEq, Repr, Inhabited

end StatusBoard
