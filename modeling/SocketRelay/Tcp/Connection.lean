import SocketRelay.Event
import SocketRelay.Tcp.Copy

/-!
# Connections

A connection copies both directions at once, each on its own, and is done when
both are.
-/

namespace SocketRelay.Tcp

/-- The ends of a connection as far as copying sees them: what the client and the remote will
send, and how they will answer to what is written to them. -/
structure Ends where
  clientSource : Source
  clientAnswers : List WriteAnswer := []
  remoteSource : Source
  remoteAnswers : List WriteAnswer := []
  deriving DecidableEq, Repr

structure Connection where
  up : Transfer
  down : Transfer
  deriving DecidableEq, Repr

namespace Connection

/-- A connection that has copied nothing, with a buffer of this size for each direction. -/
def start (bufferSize : UInt64) (e : Ends) : Connection where
  up := .start bufferSize e.clientSource { answers := e.remoteAnswers }
  down := .start bufferSize e.remoteSource { answers := e.clientAnswers }

def transfer (c : Connection) : Direction → Transfer
  | .up => c.up
  | .down => c.down

def setTransfer (c : Connection) (d : Direction) (t : Transfer) : Connection :=
  match d with
  | .up => { c with up := t }
  | .down => { c with down := t }

/-- One input of one direction, if that direction is not done. -/
def step (c : Connection) (d : Direction) (input : CopyInput) : Option Connection :=
  ((c.transfer d).move input).map (c.setTransfer d)

def isDone (c : Connection) : Bool := c.up.copy.isDone && c.down.copy.isDone

/-- A connection after inputs of its directions in some order; a direction that is done takes
none. -/
def runSchedule (c : Connection) : List (Direction × CopyInput) → Connection
  | [] => c
  | (d, i) :: rest => runSchedule ((c.step d i).getD c) rest

end Connection

end SocketRelay.Tcp
