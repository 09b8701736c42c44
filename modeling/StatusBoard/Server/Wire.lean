import StatusBoard.Http.Message
import StatusBoard.Server.Basic

/-!
Requests to the board server and its responses on the wire, and the ids of requests.
-/
namespace StatusBoard.Server

namespace Request

/-- The request that some bytes begin with; none if there is more of its head to come. -/
def ofBytes? (bytes : List UInt8) : Option Request :=
  (Http.head? bytes).map fun (head, _) =>
    match head.line.splitOn " " with
    | [method, target, _] => ⟨method, target, head.headers⟩
    | _ => ⟨"", "", head.headers⟩

end Request

namespace Response

def reason : Nat → String
  | 200 => "OK"
  | 400 => "Bad Request"
  | 404 => "Not Found"
  | 405 => "Method Not Allowed"
  | 408 => "Request Timeout"
  | _ => ""

/-- The response as it is sent. -/
def text (r : Response) : String :=
  ({ line := "HTTP/1.1 " ++ toString r.status ++ " " ++ reason r.status
     headers := r.headers ++ [("connection", "close")] } : Http.Head).text ++ r.body

/-- A response of plain lines. -/
def ofLines (lines : List String) : Response :=
  let body := String.join (lines.map (· ++ "\n"))
  ⟨200, [("content-type", "text/plain"), lengthField body], body⟩

end Response

/-- Two hexadecimal digits. -/
def hexByte (b : UInt8) : List Char :=
  [Nat.digitChar (b.toNat / 16), Nat.digitChar (b.toNat % 16)]

/-- An id of sixteen random bytes, in which the version and the variant are marked. -/
def randomId (bytes : List UInt8) : String :=
  let marked := bytes.mapIdx fun i b =>
    if i = 6 then b % 16 + 0x40 else if i = 8 then b % 64 + 0x80 else b
  let part (start size : Nat) : List Char := ((marked.drop start).take size).flatMap hexByte
  .ofList (['-'].intercalate [part 0 4, part 4 2, part 6 2, part 8 2, part 10 6])

end StatusBoard.Server
