import StatusBoard.Server.Basic
import StatusBoard.Shutdown.Channel

/-!
A server that answers some requests on one published view and is then told to stop.
-/
namespace StatusBoard.Server

/-- The responses to requests that come one after another. -/
def answers (refreshSecs : Nat) (fresh : String) (v : View) (requests : List Request) :
    List Response :=
  requests.map (receive refreshSecs fresh v)

/-- What a server writes to the log that is told to stop after its last request. With no request at
all it gets going only after the signal was sent. -/
def sessionLog (address : String) (channel : Channel) (requests : List Request) : List Log.Line :=
  let begun := [startLine address]
  let signalled := [channel.sendLine]
  (if requests = [] then signalled ++ begun else begun ++ signalled) ++ [drainLine, stopLine]

end StatusBoard.Server
