import Std.Async.DNS
import Std.Async.Signal
import Std.Async.TCP
import Std.Async.Timer
import StatusBoard.Gateway.Wire
import StatusBoard.Program.Session
import StatusBoard.Server.Wire

/-!
The program: it gathers what the run finds around it, and carries requests and replies over the
network. All that is decided is decided elsewhere.
-/
namespace StatusBoard.Main

open Std.Async
open Program (Failure Report Surroundings)

/-- Seconds since 1970. -/
def now : IO Nat := do
  return (← Std.Time.Timestamp.now).toSecondsSinceUnixEpoch.val.toNat

/-- The content of a file. -/
def contentOf (path : String) : IO FileContent := do
  try
    return .ok (← IO.FS.readBinFile path).toList
  catch e =>
    return .error (if e matches .noFileOrDirectory .. then .notFound else .isDirectory)

/-- The values of those variables that the program knows. -/
def knownVariables : IO (List (String × String)) :=
  ("RUST_LOG" :: Parameter.all.map Parameter.environmentName).filterMapM fun name => do
    return (← IO.getEnv name).map fun value => (name, value)

def surroundings (words : List String) : IO Surroundings := do
  let known ← knownVariables
  let values := fun name => known.lookup name
  let path := match Arguments.parse values words with
    | .ok a => a.config
    | .error _ => none
  let content ← (path.mapM contentOf : IO (Option FileContent))
  return ⟨words, values, fun _ => content.getD (.error .notFound)⟩

/-- Reads from a connection until a message is there. -/
partial def receive {α : Type} (socket : TCP.Socket.Client) (read? : Bool → List UInt8 → Option α)
    (bytes : List UInt8) : Async (Option α) := do
  match read? false bytes with
  | some x => return some x
  | none =>
    match ← socket.recv? 65536 with
    | none => return read? true bytes
    | some more => receive socket read? (bytes ++ more.toList)

def addressOf (ip : Std.Net.IPAddr) (port : Nat) : Std.Net.SocketAddress :=
  match ip with
  | .v4 a => .v4 ⟨a, .ofNat port⟩
  | .v6 a => .v6 ⟨a, .ofNat port⟩

/-- Asks the gateway. There are no secured connections here. -/
def send (request : Gateway.Request) : Async Gateway.Answer := do
  if request.isSecured then return .failed .other
  try
    let some (host, port) := request.place? | return .failed .other
    let some ip := (← DNS.getAddrInfo host (toString port))[0]? | return .failed .other
    let socket ← TCP.Socket.Client.mk
    socket.connect (addressOf ip port)
    socket.send request.text.toUTF8
    return (← receive socket Gateway.Answer.ofBytes? []).getD (.failed .other)
  catch _ => return .failed .other

/-- One fetch, as long as it may take. -/
def fetch (f : Gateway.Fetcher) : Async (Except FetchError Snapshot) :=
  Async.race (f.fetch send) do
    sleep (.ofNat f.timeoutMs)
    return .error (.timeout f.timeoutMs)

/-- A run that serves, and which lines of its log are shown. -/
structure Running where
  service : IO.Ref Program.Service
  filter : Log.Filter

namespace Running

def log (r : Running) (lines : List Log.Line) : IO Unit :=
  (r.filter.apply lines).forM fun line => IO.println line.text

/-- Something happens to the run; what it newly writes to the log is shown. -/
def change (r : Running) (f : Program.Service → Program.Service) : IO Unit := do
  let lines ← r.service.modifyGet fun s =>
    let t := f s
    (t.signals.log.drop s.signals.log.length ++ t.poller.log.drop s.poller.log.length, t)
  r.log lines

/-- Polls again and again. -/
partial def poll (r : Running) (f : Gateway.Fetcher) (period : Nat) : Async Unit := do
  let begun ← IO.monoMsNow
  r.change (·.poll 0 .tick)
  let fetched ← fetch f
  let time ← now
  r.change (·.poll time (.answer fetched))
  let spent := (← IO.monoMsNow) - begun
  sleep (.ofNat (period - spent % period))
  r.poll f period

/-- Answers one question on a connection. -/
def reply (r : Running) (socket : TCP.Socket.Client)
    (question : Server.Request → Program.Question) : Async Unit := do
  try
    let some request ← receive socket (fun _ => Server.Request.ofBytes?) [] | return
    let fresh := Server.randomId (← IO.getRandomBytes 16).toList
    match (← r.service.get).reply? fresh (question request) with
    | some (.document d) => socket.send d.text.toUTF8
    | some (.samples lines) => socket.send (Server.Response.ofLines lines).text.toUTF8
    | none => return
    socket.shutdown
  catch _ => return

/-- Answers questions again and again. -/
partial def listen (r : Running) (server : TCP.Socket.Server)
    (question : Server.Request → Program.Question) : Async Unit := do
  let socket ← server.accept
  background (r.reply socket question)
  r.listen server question

end Running

/-- Listens at an address. -/
def bind (address : String) : IO TCP.Socket.Server := do
  let server ← TCP.Socket.Server.mk
  let octet (n : Nat) : UInt8 := .ofNat n
  match SocketAddress.parse? address with
  | some (.v4 [a, b, c, d] port) =>
    server.bind (.v4 ⟨.ofParts (octet a) (octet b) (octet c) (octet d), .ofNat port⟩)
  | some (.v6 ps _ port) =>
    match ps.map UInt16.ofNat with
    | [a, b, c, d, e, f, g, h] => server.bind (.v6 ⟨.ofParts a b c d e f g h, .ofNat port⟩)
    | _ => throw (.userError "no address")
  | _ => throw (.userError "no address")
  server.listen 128
  return server

/-- Waits for the first termination signal. -/
def awaitSignal : Async SystemSignal := do
  let term ← Signal.Waiter.mk .sigterm false
  let int ← Signal.Waiter.mk .sigint false
  Selectable.one #[
    .case term.selector fun _ => return SystemSignal.term,
    .case int.selector fun _ => return SystemSignal.int]

/-- A run that serves until a signal comes. -/
def serve (c : Config) (f : Gateway.Fetcher) (filter : Log.Filter) : Async (Option Failure) := do
  let r : Running := ⟨← IO.mkRef (Program.Service.start c), filter⟩
  try
    if c.observability.metricsEnabled then
      let server ← bind c.observability.metricsAddress
      r.log (Program.Service.openingLog c)
      background (r.listen server fun q => .metrics q.target)
    r.log (Program.Service.start c).poller.log
    background (r.poll f (Poller.Run.period c.refresh.intervalMs.toNat))
    if c.server.enabled then
      let server ← bind c.server.bindAddress
      background (r.listen server .board)
    r.log ((Program.Service.serverLog c).take 1)
  catch _ => return some .addressTaken
  let signal ← awaitSignal
  let time ← now
  r.change (·.signal time signal)
  r.log ((Program.Service.serverLog c).drop 1)
  let board := (← r.service.get).poller.poller.board
  r.log [Program.completeLine board.size board.passes]
  return none

/-- The text of what ended a run early. -/
def failureText : Failure → String
  | .usage .help => "Usage: revolver-dashboard [OPTIONS]"
  | .usage _ => "error: unexpected arguments\n\nUsage: revolver-dashboard [OPTIONS]"
  | .config e => "Error: " ++ e.message
  | .fetch e => "Error: " ++ e.message
  | .addressTaken => "Error: address not available"

def run (s : Surroundings) : Async Report := do
  match s.effective with
  | .error e => return .failed e []
  | .ok (a, c) =>
    let filter := Log.Filter.ofEnvironment (s.«variables» "RUST_LOG") c.observability.logLevel
    let lines (ls : List Log.Line) : IO Unit :=
      (filter.apply ls).forM fun line => IO.println line.text
    match Gateway.Fetcher.ofConfig c.source with
    | .error e =>
      lines [Program.startLine c]
      return .failed (.fetch e) []
    | .ok f =>
      lines [Program.startLine c, f.readyLine]
      if a.once then
        let report := Report.ofFetch (← now) [] (← fetch f)
        lines report.log
        IO.print report.printed
        return report
      else return { failure := ← serve c f filter }

end StatusBoard.Main

open StatusBoard in
def main (words : List String) : IO UInt32 := do
  let s ← Main.surroundings words
  let report ← (Main.run s).block
  match report.failure with
  | some f => IO.eprintln (Main.failureText f)
  | none => if report.crashed then IO.eprintln "a name is too long for a column"
  return .ofNat report.exitCode
