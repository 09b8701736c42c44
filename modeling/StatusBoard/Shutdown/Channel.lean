import StatusBoard.Log.Line

/-!
The signal to stop, sent to everyone who listens. The channel keeps only the newest signal: a
receiver that was slow learns how many it missed and then gets the newest. A receiver gets nothing
that was sent before it began to listen.
-/
namespace StatusBoard

/-- A listener: the number of the next signal it waits for. -/
structure Receiver where
  next : Nat
deriving DecidableEq, Repr

/-- What a receiver finds when it looks. -/
inductive Receipt where
  | signal
  | empty
  | closed
  | lagged (missed : Nat)
deriving DecidableEq, Repr

/-- The channel with its handles and receivers, numbered as they were made. -/
structure Channel where
  /-- Signals sent so far. -/
  sent : Nat
  /-- For each handle, whether it is alive. -/
  handles : List Bool
  /-- The receivers; none for one that was dropped. -/
  receivers : List (Option Receiver)
deriving DecidableEq, Repr

namespace Channel

/-- Signals that the channel keeps. -/
def capacity : Nat := 1

/-- A channel with one handle and no receiver. -/
def opened : Channel := ⟨0, [true], []⟩

def isAlive (c : Channel) (handle : Nat) : Bool :=
  c.handles.getD handle false

/-- Whether some handle is left. -/
def isOpen (c : Channel) : Bool :=
  c.handles.any id

def receiverCount (c : Channel) : Nat :=
  c.receivers.countP (·.isSome)

/-- A new receiver, through a handle; none if the handle is gone. -/
def subscribe (c : Channel) (handle : Nat) : Channel × Option Nat :=
  if c.isAlive handle then
    ({ c with receivers := c.receivers ++ [some ⟨c.sent⟩] }, some c.receivers.length)
  else (c, none)

/-- A new handle beside an old one; as alive as that one is. -/
def clone (c : Channel) (handle : Nat) : Channel × Nat :=
  ({ c with handles := c.handles ++ [c.isAlive handle] }, c.handles.length)

/-- Sends a signal. Without a receiver there is nobody to keep it for. -/
def send (c : Channel) : Channel :=
  if c.receiverCount = 0 then c else { c with sent := c.sent + 1 }

/-- Sends a signal through a handle. -/
def trigger? (c : Channel) (handle : Nat) : Option Channel :=
  if c.isAlive handle then some c.send else none

/-- Drops a handle; whether there was one. -/
def dropHandle (c : Channel) (handle : Nat) : Channel × Bool :=
  ({ c with handles := c.handles.set handle false }, c.isAlive handle)

/-- Drops a receiver; whether there was one. -/
def dropReceiver (c : Channel) (receiver : Nat) : Channel × Bool :=
  ({ c with receivers := c.receivers.set receiver none }, (c.receivers.getD receiver none).isSome)

/-- What a receiver finds, and the receiver afterwards. -/
def look (c : Channel) (r : Receiver) : Receiver × Receipt :=
  if r.next = c.sent then (r, if c.isOpen then .empty else .closed)
  else if r.next + capacity < c.sent then
    (⟨c.sent - capacity⟩, .lagged (c.sent - capacity - r.next))
  else (⟨r.next + 1⟩, .signal)

/-- Lets a receiver look; none if there is no such receiver. -/
def receive (c : Channel) (receiver : Nat) : Channel × Option Receipt :=
  match c.receivers.getD receiver none with
  | none => (c, none)
  | some r =>
    let (r, receipt) := c.look r
    ({ c with receivers := c.receivers.set receiver (some r) }, some receipt)

/-- What sending writes to the log. -/
def sendLine (c : Channel) : Log.Line :=
  ⟨.debug, "revolver_dashboard::lifecycle::shutdown", "Shutdown triggered",
    [("receivers", .number c.receiverCount)]⟩

end Channel

end StatusBoard
