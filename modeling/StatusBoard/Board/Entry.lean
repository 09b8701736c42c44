import StatusBoard.Snapshot.Basic

/-!
The entry of one service on the board. It is created once with the APIs of that moment; later only
its health, its indicator and its three instance counts change.
-/
namespace StatusBoard

/-- Colour of the status icon. -/
inductive Indicator where
  | green
  | red
  | grey
deriving DecidableEq, Repr, Inhabited

namespace Indicator

def ofHealth : Health → Indicator
  | .healthy => .green
  | .unhealthy => .red
  | .unknown => .grey

/-- The word for the colour, in markup, listings and JSON. -/
def word : Indicator → String
  | .green => "green"
  | .red => "red"
  | .grey => "grey"

end Indicator

/-- How many services a snapshot holds, in all and by health. -/
structure Counts where
  total : Nat
  healthy : Nat
  unhealthy : Nat
  unknown : Nat
deriving DecidableEq, Repr, Inhabited

namespace Counts

def zero : Counts := ⟨0, 0, 0, 0⟩

end Counts

/-- An entry. The passes are those that created it and that last touched it. -/
structure Entry where
  name : String
  health : Health
  indicator : Indicator
  instances : UInt64
  healthy : UInt64
  unhealthy : UInt64
  apis : List Api
  apiMarkup : String
  createdPass : Nat
  updatedPass : Nat
deriving DecidableEq, Repr, Inhabited

namespace Entry

/-- The entry of a service that is new on the board. -/
def create (s : Service) (apiMarkup : String) (pass : Nat) : Entry where
  name := s.name
  health := s.health
  indicator := .ofHealth s.health
  instances := s.instances
  healthy := s.healthy
  unhealthy := s.unhealthy
  apis := s.apis
  apiMarkup := apiMarkup
  createdPass := pass
  updatedPass := pass

/-- Takes over a service's health and counts. -/
def apply (e : Entry) (s : Service) (pass : Nat) : Entry :=
  { e with
    health := s.health
    indicator := .ofHealth s.health
    instances := s.instances
    healthy := s.healthy
    unhealthy := s.unhealthy
    updatedPass := pass }

def instancesLabel (e : Entry) : String := s!"Instances: {e.instances}"

def healthyLabel (e : Entry) : String := s!"Healthy: {e.healthy}"

def unhealthyLabel (e : Entry) : String := s!"Unhealthy: {e.unhealthy}"

end Entry

end StatusBoard
