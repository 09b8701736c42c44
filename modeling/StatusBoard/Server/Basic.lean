import StatusBoard.Http.Header
import StatusBoard.Log.Line
import StatusBoard.Server.Document

/-!
The board server: how a request is answered, be it for one of the documents or for anything else.
Layers around the handler see to what all responses have in common: every response to a request
that reached the server forbids caching and carries a request id, the request's own one if it has
one.
-/
namespace StatusBoard.Server

/-- A request to the server. -/
structure Request where
  method : String
  target : String
  headers : Http.Headers
deriving DecidableEq, Repr

/-- A response of the server. Its field names are in lower case. -/
structure Response where
  status : Nat
  headers : Http.Headers
  body : String
deriving DecidableEq, Repr

/-- A target without its query and fragment. -/
def stem (target : String) : List Char :=
  target.toList.takeWhile fun c => c != '?' && c != '#'

/-- What follows a scheme and its two slashes. -/
def behindScheme? (cs : List Char) : Option (List Char) :=
  match cs.dropWhile fun c => c.isAlphanum || c ∈ ['+', '-', '.'] with
  | ':' :: '/' :: '/' :: r => some r
  | _ => none

/-- The path of a target. Most targets are paths; a whole address has one behind its host; a host
alone, or an asterisk, has none. -/
def pathOf (target : String) : String :=
  match stem target with
  | '/' :: r => .ofList ('/' :: r)
  | cs =>
    match behindScheme? cs with
    | none => ""
    | some r =>
      match r.dropWhile (· != '/') with
      | [] => "/"
      | path => .ofList path

def lengthField (body : String) : String × String :=
  ("content-length", toString body.utf8ByteSize)

/-- A response without a body. -/
def bare (status : Nat) : Response :=
  ⟨status, [lengthField ""], ""⟩

/-- The response to a request that is let through. A request for the head alone gets the fields of
the whole document. -/
def dispatch (refreshSecs : Nat) (v : View) (r : Request) : Response :=
  match Document.ofPath? (pathOf r.target) with
  | none => if r.method = "HEAD" then ⟨404, [], ""⟩ else bare 404
  | some d =>
    let body := content refreshSecs v d
    let headers := [("content-type", d.contentType), lengthField body]
    if r.method = "GET" then ⟨200, headers, body⟩
    else if r.method = "HEAD" then ⟨200, headers, ""⟩
    else ⟨405, [("allow", "GET,HEAD"), lengthField ""], ""⟩

/-- What answers requests. -/
abbrev Handler := Request → Response

/-- The response to a request whose time ran out. -/
def timedOut : Response := bare 408

namespace Layer

def idField : String := "x-request-id"

/-- Gives a fresh id to a request that has none. -/
def assignId (fresh : String) (h : Handler) : Handler := fun r =>
  match r.headers.value? idField with
  | some _ => h r
  | none => h { r with headers := r.headers.put idField fresh }

/-- Copies the id of a request to a response that has none. -/
def copyId (h : Handler) : Handler := fun r =>
  let x := h r
  match x.headers.value? idField, r.headers.value? idField with
  | none, some id => { x with headers := x.headers.put idField id }
  | _, _ => x

/-- Sets a field of every response. -/
def setField (name value : String) (h : Handler) : Handler := fun r =>
  let x := h r
  { x with headers := x.headers.put name value }

/-- Answers in place of a handler that is not done in time. -/
def limitTime (inTime : Bool) (h : Handler) : Handler := fun r =>
  if inTime then h r else timedOut

end Layer

/-- A handler in its layers, the outermost first: a request has its id before this is copied, and
even a response that no handler gives passes through the layers outside. -/
def layered (fresh : String) (inTime : Bool) (h : Handler) : Handler :=
  Layer.assignId fresh <| Layer.copyId <| Layer.setField "cache-control" "no-store" <|
    Layer.limitTime inTime h

/-- The response to a request that reached the server, in time or not. -/
def answer (refreshSecs : Nat) (fresh : String) (v : View) (inTime : Bool) : Handler :=
  layered fresh inTime (dispatch refreshSecs v)

/-- Whether a target may name a host, with or without a port. -/
def isHost (cs : List Char) : Bool :=
  cs != [] && cs.getLast? != some '@' && cs.all isHostChar &&
    (cs.reverse.takeWhile fun c => c != '@' && c != ']').count ':' ≤ 1
where
  isHostChar (c : Char) : Bool :=
    c.isAlphanum || c ∈ "-._~!$&'()*+,;=:@[]".toList

/-- Whether a target may stand in a request line: a path, a whole address, a host or an
asterisk. -/
def isTarget (target : String) : Bool :=
  let cs := stem target
  let behind := target.toList.drop cs.length
  (behind.takeWhile (· != '#')).all (isTargetChar true) &&
    match cs with
    | '/' :: r => r.all (isTargetChar false)
    | _ =>
      match behindScheme? cs with
      | some r =>
        isHost (r.takeWhile (· != '/')) && (r.dropWhile (· != '/')).all (isTargetChar false)
      | none => behind = [] && isHost cs
where
  isTargetChar (inQuery : Bool) (c : Char) : Bool :=
    0x21 ≤ c.toNat && c ∉ ['<', '>'] && (if inQuery then c != '"' else c != '\x60')

/-- The response to a message. One that is no request never reaches the server. -/
def receive (refreshSecs : Nat) (fresh : String) (v : View) (r : Request) : Response :=
  if isTarget r.target ∧ r.headers.all fun h => Http.isFieldValue h.2 then
    answer refreshSecs fresh v true r
  else bare 400

open Log (Line)

def target : String := "revolver_dashboard::http::server"

def startLine (address : String) : Line :=
  ⟨.info, target, "Board server starting", [("address", .text address)]⟩

def drainLine : Line := ⟨.info, target, "Board server draining", []⟩

def stopLine : Line := ⟨.info, target, "Board server stopped", []⟩

end StatusBoard.Server
