import StatusBoard.Record.Mismatch
import StatusBoard.Url.ParseError

/-!
Why no snapshot came from the gateway.
-/
namespace StatusBoard

inductive FetchError where
  /-- The base URL and the status path make no endpoint. -/
  | invalidUrl (e : Url.ParseError)
  /-- The user agent is no legal header value. -/
  | client
  /-- The connection or the transfer failed. -/
  | transport
  | timeout (milliseconds : Nat)
  | status (code : Nat)
  | decode (m : Mismatch)
deriving DecidableEq, Repr

namespace FetchError

/-- The text of an error. -/
def message : FetchError → String
  | .invalidUrl e => "invalid status endpoint: " ++ e.message
  | .client => "failed to build HTTP client: builder error"
  | .transport => "transport error: error sending request"
  | .timeout ms => s!"request timed out after {ms} ms"
  | .status code => s!"gateway returned status {code}"
  | .decode m => "malformed status document: " ++ m.message?.getD "syntax error"

end FetchError

end StatusBoard
