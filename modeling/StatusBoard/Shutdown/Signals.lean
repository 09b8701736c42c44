import StatusBoard.Shutdown.Channel

/-!
Termination signals of the system. The listener waits for the first one, passes it on to the
channel and ends; later signals find nobody.
-/
namespace StatusBoard

/-- A termination signal. -/
inductive SystemSignal where
  | term
  | int
deriving DecidableEq, Repr

/-- The listener: whether it still waits, the channel it serves, and its log. -/
structure SignalListener where
  ended : Bool
  channel : Channel
  log : List Log.Line

namespace SignalListener

def receivedLine : Log.Line :=
  ⟨.info, "revolver_dashboard::lifecycle::signals", "Shutdown signal received", []⟩

/-- A listener that has just begun to wait. -/
def start (channel : Channel) : SignalListener := ⟨false, channel, []⟩

/-- A signal arrives. -/
def notify (l : SignalListener) (_ : SystemSignal) : SignalListener :=
  if l.ended then l
  else ⟨true, l.channel.send, l.log ++ [receivedLine, l.channel.sendLine]⟩

end SignalListener

end StatusBoard
