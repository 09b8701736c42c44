import StatusBoard.Gateway.Fetcher
import StatusBoard.Http.Message

/-!
Requests to the gateway and its answers on the wire. A connection serves one request.
-/
namespace StatusBoard.Gateway

namespace Request

/-- The host and the port that the address names. -/
def place? (r : Request) : Option (String × Nat) :=
  match Url.parse r.address with
  | .error _ => none
  | .ok u => do
    let a ← u.authority
    let port ← a.port <|> Url.defaultPort? u.scheme
    some (a.host.text, port)

/-- Whether the request asks for a secured connection. -/
def isSecured (r : Request) : Bool :=
  match Url.parse r.address with
  | .ok u => u.scheme = "https"
  | .error _ => false

/-- The request as it is sent. -/
def text (r : Request) : String :=
  let host := match r.place? with
    | some (host, 80) => host
    | some (host, port) => host ++ ":" ++ toString port
    | none => ""
  ({ line := "GET " ++ r.target ++ " HTTP/1.1"
     headers := [("host", host), ("user-agent", r.userAgent), ("accept", "*/*"),
       ("connection", "close")] } : Http.Head).text

end Request

namespace Answer

/-- The status in the first line of an answer. -/
def status? (line : String) : Option Nat :=
  match line.splitOn " " with
  | version :: status :: _ => if version.startsWith "HTTP/1." then status.toNat? else none
  | _ => none

/-- The answer that some bytes are; none if there is more to come. -/
def ofBytes? (hasEnded : Bool) (bytes : List UInt8) : Option Answer :=
  match Http.head? bytes with
  | none => if hasEnded then some (.failed .other) else none
  | some (head, rest) =>
    match status? head.line with
    | none => some (.failed .other)
    | some status =>
      match Http.body? head.framing hasEnded rest with
      | some body => some (ofMessage status head.headers (.ok body))
      | none => if hasEnded then some (ofMessage status head.headers (.error .other)) else none

end Answer

end StatusBoard.Gateway
