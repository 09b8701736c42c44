import StatusBoard.Gateway.Fetcher

/-!
A gateway with answers laid down in advance: one for each request in turn, the last one for all
that follow. It sees only the requests that go to its own host and port, and it has no secured
connections.
-/
namespace StatusBoard.Gateway

structure Script where
  /-- A URL at which the gateway answers. -/
  origin : String
  answers : List Answer
  /-- The requests that it saw. -/
  seen : List Request

namespace Script

/-- The answer to the next request, and what is left. -/
def next : List Answer → Answer × List Answer
  | [] => (.failed .other, [])
  | [a] => (a, [a])
  | a :: as => (a, as)

/-- The host and the port of a URL, if there is no need for a secured connection. -/
def place (s : String) : Option (Url.Host × Option Nat) :=
  match Url.parse s with
  | .ok u => if u.scheme = "http" then u.authority.map fun a => (a.host, a.port) else none
  | .error _ => none

def respond (request : Request) : StateM Script Answer := do
  let g ← get
  if place request.address = place g.origin then
    let (a, rest) := next g.answers
    set { g with answers := rest, seen := g.seen ++ [request] }
    return a
  else return .failed .other

end Script

end StatusBoard.Gateway
