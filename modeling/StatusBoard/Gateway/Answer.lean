import StatusBoard.Gateway.FetchError
import StatusBoard.Http.Header
import StatusBoard.Snapshot.Decoding

/-!
Answers of the gateway, and what snapshot they carry. The status is looked at first, then the
transfer of the body, then the body.
-/
namespace StatusBoard.Gateway

/-- Why a transfer came to nothing. -/
inductive Failure where
  | timeout
  | other
deriving DecidableEq, Repr

/-- A response: its head, and its body unless the transfer of the body failed. -/
structure Response where
  status : Nat
  headers : Http.Headers
  body : Except Failure (List UInt8)

/-- What comes back for a request. -/
inductive Answer where
  | failed (f : Failure)
  | response (r : Response)

namespace Failure

/-- The failure as an error of a fetch that may take the given time. -/
def toError (timeoutMs : Nat) : Failure → FetchError
  | .timeout => .timeout timeoutMs
  | .other => .transport

end Failure

namespace Response

/-- Whether a status tells of success. -/
def isSuccess (status : Nat) : Bool :=
  200 ≤ status && status < 300

/-- The snapshot that a final response carries. -/
def snapshot (timeoutMs : Nat) (r : Response) : Except FetchError Snapshot :=
  if isSuccess r.status then
    match r.body with
    | .error f => .error (f.toError timeoutMs)
    | .ok bytes => (Snapshot.decode bytes).mapError .decode
  else .error (.status r.status)

end Response

namespace Answer

/-- The snapshot that a final answer carries. -/
def snapshot (timeoutMs : Nat) : Answer → Except FetchError Snapshot
  | .failed f => .error (f.toError timeoutMs)
  | .response r => r.snapshot timeoutMs

/-- The answer that a message makes. Its status has three digits; an interim one announces another
message, which never comes, and two statuses never have a body. -/
def ofMessage (status : Nat) (headers : Http.Headers) (body : Except Failure (List UInt8)) :
    Answer :=
  if status < 101 ∨ 999 < status ∨ (101 < status ∧ status < 200) then .failed .other
  else if status = 204 ∨ status = 304 then .response ⟨status, headers, .ok []⟩
  else .response ⟨status, headers, body⟩

end Answer

end StatusBoard.Gateway
