import StatusBoard.Gateway.Fetcher
import StatusBoard.Poller.Run
import StatusBoard.Program.Report
import StatusBoard.Shutdown.Signals

/-!
A run that polls and serves until a signal comes. The poller, the server and an idle wait all listen
for the signal before anyone could send it.
-/
namespace StatusBoard.Program

/-- A question to a run that serves. -/
inductive Question where
  | board (r : Server.Request)
  | metrics (path : String)
deriving DecidableEq, Repr

/-- A run that serves: the poller, what passes the signal on, and the replies so far. -/
structure Service where
  config : Config
  poller : Poller.Run
  signals : SignalListener
  replies : List Reply

namespace Service

/-- The channel with its three receivers: for the poller, for the idle wait and for the server. -/
def wiring : Channel :=
  let subscribed := ((((Channel.opened.subscribe 0).1.subscribe 0).1.subscribe 0).1)
  (subscribed.clone 0).1

/-- A service that has just begun. -/
def start (c : Config) : Service :=
  ⟨c, .start c.refresh.intervalMs.toNat, .start wiring, []⟩

/-- Something happens to the poller. -/
def poll (now : Nat) (s : Service) (e : Poller.Event) : Service :=
  { s with poller := s.poller.step .html now e }

/-- The reply to a question, if there is someone to give it. -/
def reply? (fresh : String) (s : Service) : Question → Option Reply
  | .board r =>
    if s.config.server.enabled then
      some (.document
        (Server.receive (Server.refreshSecs s.config.refresh) fresh s.poller.poller.published r))
    else none
  | .metrics path =>
    if s.config.observability.metricsEnabled then
      some (.samples (if Server.pathOf path = "/health" then ["OK"]
        else s.poller.poller.metrics.samples))
    else none

/-- Someone asks. -/
def ask (fresh : String) (s : Service) (q : Question) : Service :=
  { s with replies := s.replies ++ (s.reply? fresh q).toList }

/-- A termination signal, which reaches the poller too. -/
def signal (now : Nat) (s : Service) (x : SystemSignal) : Service :=
  { s with
    signals := s.signals.notify x
    poller := s.poller.step .html now .stop }

/-- What a service listens at. -/
def listeners (c : Config) : List Listener :=
  (if c.observability.metricsEnabled then [.metrics c.observability.metricsAddress] else []) ++
    (if c.server.enabled then [.board c.server.bindAddress] else [])

/-- What is logged before polling begins. -/
def openingLog (c : Config) : List Log.Line :=
  if c.observability.metricsEnabled then
    [metricsLine (SocketAddress.shown c.observability.metricsAddress)]
  else []

/-- What the server logs, or what is logged in its place. -/
def serverLog (c : Config) : List Log.Line :=
  if c.server.enabled then
    [Server.startLine (SocketAddress.shown c.server.bindAddress), Server.drainLine,
      Server.stopLine]
  else [noServerLine]

/-- The report on a service that has ended. -/
def report (log : List Log.Line) (s : Service) : Report where
  listeners := listeners s.config
  replies := s.replies
  log := log ++ openingLog s.config ++ s.poller.log ++ s.signals.log ++ serverLog s.config ++
    [completeLine s.poller.poller.board.size s.poller.poller.board.passes]

end Service

end StatusBoard.Program
