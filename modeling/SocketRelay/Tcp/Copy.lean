import SocketRelay.Tcp.Stream

/-!
# Copying one direction

A copy reads into a buffer, writes everything it read and reads again, until
there is nothing more to read or a call fails; then it shuts its destination
down. It counts the bytes of a buffer once all of them are written.

`Copy` is the state between two calls, and moves by what a call gave. A
`Transfer` is a copy with the source and the sink it works on. A copy is a task
of its own, which can be lost; then nobody knows what it counted, and its
destination is shut down because nobody holds it any more.
-/

namespace SocketRelay.Tcp

open Net

inductive CopyPhase where
  | reading
  /-- Of `size` bytes that were read, `left` are not written yet. -/
  | writing (left : Bytes) (size : Nat)
  /-- About to shut the destination down. -/
  | ending (failure : Option IoError)
  | done (failure : Option IoError)
  deriving DecidableEq, Repr

structure Copy where
  bufferSize : Nat
  phase : CopyPhase := .reading
  bytes : UInt64 := 0
  deriving DecidableEq, Repr

namespace Copy

/-- A copy with a buffer of at least one byte. -/
def start (bufferSize : UInt64) : Copy where
  bufferSize := max bufferSize.toNat 1

/-- The copy after a read. -/
def onRead (c : Copy) : ReadResult → Copy
  | .bytes bs => { c with phase := .writing bs bs.length }
  | .ended => { c with phase := .ending none }
  | .failed cause => { c with phase := .ending (some cause) }

/-- The copy after a write that belongs to a read of `size` bytes, with what it left. -/
def onWrite (c : Copy) (size : Nat) : Except IoError Bytes → Copy
  | .ok [] => { c with phase := .reading, bytes := c.bytes + size.toUInt64 }
  | .ok left => { c with phase := .writing left size }
  | .error cause => { c with phase := .ending (some cause) }

/-- The copy after it shut its destination down. -/
def onShutdown (c : Copy) (failure : Option IoError) : Copy := { c with phase := .done failure }

/-- The copy after its task was lost. -/
def onLoss (c : Copy) (cause : IoError) : Copy := { c with phase := .done (some cause), bytes := 0 }

def isDone (c : Copy) : Bool :=
  match c.phase with
  | .done _ => true
  | _ => false

/-- The error that ended the copy, if it did not end with its source. -/
def failure (c : Copy) : Option IoError :=
  match c.phase with
  | .ending failure | .done failure => failure
  | _ => none

end Copy

/-- What happens to the task of a copy. -/
inductive CopyInput where
  /-- It makes its next call. -/
  | call
  | lost (cause : IoError)
  deriving DecidableEq, Repr

/-- A copy between two streams. -/
structure Transfer where
  copy : Copy
  source : Source
  sink : Sink
  deriving DecidableEq, Repr

namespace Transfer

def start (bufferSize : UInt64) (source : Source) (sink : Sink) : Transfer :=
  ⟨.start bufferSize, source, sink⟩

/-- One call, if the copy is not done. -/
def step (t : Transfer) : Option Transfer :=
  match t.copy.phase with
  | .reading =>
    let (result, source) := t.source.read t.copy.bufferSize
    some { t with source, copy := t.copy.onRead result }
  | .writing left size =>
    let (result, sink) := t.sink.write left
    some { t with sink, copy := t.copy.onWrite size result }
  | .ending failure =>
    some { t with sink := t.sink.shutdown, copy := t.copy.onShutdown failure }
  | .done _ => none

/-- The loss of the task, if the copy is not done. -/
def lose (t : Transfer) (cause : IoError) : Option Transfer :=
  if t.copy.isDone then none
  else some { t with sink := t.sink.shutdown, copy := t.copy.onLoss cause }

def move (t : Transfer) : CopyInput → Option Transfer
  | .call => t.step
  | .lost cause => t.lose cause

/-- A transfer after inputs in order; one that is done takes none. -/
def runInputs (t : Transfer) : List CopyInput → Transfer
  | [] => t
  | i :: is => runInputs ((t.move i).getD t) is

/-- More calls than are left: every call reads, takes or drops something. -/
def fuel (t : Transfer) : Nat :=
  let unwritten := match t.copy.phase with
    | .writing left _ => left.length
    | _ => 0
  2 * (t.source.all.length + t.source.pieces.length) + unwritten + 3

/-- Makes up to `n` calls. -/
def runFor : Nat → Transfer → Transfer
  | 0, t => t
  | n + 1, t =>
    match t.step with
    | some t' => runFor n t'
    | none => t

/-- Makes calls until the copy is done. -/
def run (t : Transfer) : Transfer := runFor t.fuel t

end Transfer

end SocketRelay.Tcp
