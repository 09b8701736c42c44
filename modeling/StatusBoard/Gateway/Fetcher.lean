import StatusBoard.Config.Basic
import StatusBoard.Gateway.Answer
import StatusBoard.Gateway.Endpoint
import StatusBoard.Log.Line
import StatusBoard.Url.Reference

/-!
Fetching the status document. A fetcher is ready once its endpoint resolves and its user agent is
a legal header value; it then follows up to ten redirects to the final answer. How a request is
answered is a parameter.
-/
namespace StatusBoard.Gateway

/-- A request for a document. -/
structure Request where
  /-- The URL without a fragment. -/
  address : String
  userAgent : String
deriving DecidableEq, Repr

namespace Request

/-- The path and the query of the address. -/
def target (r : Request) : String :=
  let behind := ((r.address.toList.dropWhile (· != ':')).drop 3).dropWhile fun c =>
    c != '/' && c != '?'
  .ofList (match behind with
    | '/' :: _ => behind
    | _ => '/' :: behind)

end Request

/-- A fetcher of one endpoint. -/
structure Fetcher where
  url : Url
  timeoutMs : Nat
  userAgent : String
deriving DecidableEq, Repr

namespace Fetcher

/-- The fetcher that a configuration describes. -/
def ofConfig (c : SourceConfig) : Except FetchError Fetcher :=
  match statusUrl c.baseUrl c.statusPath with
  | .error e => .error (.invalidUrl e)
  | .ok url =>
    if Http.isFieldValue c.userAgent then .ok ⟨url, c.timeoutMs.toNat, c.userAgent⟩
    else .error .client

/-- What a new fetcher writes to the log. -/
def readyLine (f : Fetcher) : Log.Line :=
  ⟨.debug, "revolver_dashboard::fetch::client", "Status fetcher ready",
    [("url", .text f.url.text), ("timeout_ms", .number f.timeoutMs)]⟩

/-- Redirects that are followed at most. -/
def redirectLimit : Nat := 10

def isRedirect (status : Nat) : Bool :=
  status ∈ [301, 302, 303, 307, 308]

/-- The address that a response sends on to. -/
def redirect? (address : String) (r : Response) : Option String := do
  if isRedirect r.status then
    let location ← Url.Reference.parse? (← r.headers.value? "location")
    let next := (← Url.Reference.parse? address).resolve location
    if next.isPlace then some next.text else none
  else none

variable {m : Type → Type} [Monad m]

/-- The final answer from an address on, with a number of redirects left. Only addresses of HTTP are
asked for; the connection, and what secures it under https, is up to `send`. -/
def exchange (send : Request → m Answer) (userAgent : String) :
    Nat → String → m Answer
  | left, address => do
    if !Url.isHttpText address then return .failed .other
    match ← send ⟨address, userAgent⟩ with
    | .failed f => return .failed f
    | .response r =>
      match redirect? address r with
      | none => return .response r
      | some next =>
        match left with
        | 0 => return .failed .other
        | left + 1 => exchange send userAgent left next

/-- The address of the endpoint. -/
def address (f : Fetcher) : String :=
  { f.url with fragment := none }.text

/-- One fetch. -/
def fetch (send : Request → m Answer) (f : Fetcher) : m (Except FetchError Snapshot) := do
  return (← exchange send (Http.bare f.userAgent) redirectLimit f.address).snapshot f.timeoutMs

end Fetcher

end StatusBoard.Gateway
