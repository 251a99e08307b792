import SocketRelay.Udp.Engine

/-!
# UDP relays

A relay reads datagrams from its listener and hands them to its manager through
a bounded channel. When the channel is full it holds the datagram and reads no
more until the manager has taken one; the first such wait after a free hand-over
counts as a stall. The manager deals with one datagram at a time. While it looks
the target up or dials, the read loop and the tasks of sessions go on, but there
is no sweep, no report is taken and no question answered. A run is a sequence of
actions, each possible in the state it meets, at instants that never go back.
-/

namespace SocketRelay.Udp

open Net

/-- A relay with its listener bound that does not serve yet. -/
structure Listener where
  listen : Endpoint
  target : String
  settings : Settings
  deriving DecidableEq, Repr

/-- Binds a relay: `socket` is what binding the text gives if the settings are fit to run with. -/
def Listener.bind (text target : String) (settings : Settings)
    (socket : Except IoError Endpoint) : Except Error Listener := do
  settings.check
  let listen ← socket.mapError (.bind text)
  return ⟨listen, target, settings⟩

structure Relay where
  listen : Endpoint
  engine : Engine
  /-- Datagrams on their way to the manager. -/
  ingest : Channel Datagram
  /-- The datagram that waits for a slot of the channel. -/
  held : Option Datagram := none
  /-- The datagram that the manager has taken and not dealt with yet. -/
  inHand : Option Datagram := none
  /-- Whether the last hand-over had to wait. -/
  stalled : Bool := false
  /-- Everything that was read from the listener. -/
  received : List Datagram := []
  /-- The error that ended the read loop. -/
  result : Option Error := none
  deriving DecidableEq, Repr

namespace Listener

/-- The event of a relay that has started its manager. -/
def started (l : Listener) : Event := .relayStarted .udp l.listen l.target

/-- Whether the channels of the relay can be made. -/
def hasChannels (l : Listener) (cores : UInt64) : Bool :=
  Channel.canHave (l.settings.ingestCapacity cores).toNat &&
    Channel.canHave l.settings.eventQueue.toNat

/-- Starts the manager and the read loop on a machine that gives up to `memory` bytes for a
buffer, whenever one is asked for. Without its channels or its receive buffer, the relay ends before
it reads. The buffers of repliers have the same size. -/
def start? (l : Listener) (cores : UInt64) (memory : Nat) (now : Instant) : Option Relay :=
  if l.hasChannels cores && Payload.canBuffer memory l.settings.maxDatagramSize then
    let e := Engine.start l.target l.settings now
    some {
      listen := l.listen
      engine := e.record l.started
      ingest := {
        capacity := (l.settings.ingestCapacity cores).toNat
        closed := !e.running } }
  else none

/-- What a relay logs that ends before it reads. -/
def lastWords (l : Listener) (cores : UInt64) : List Event :=
  if l.hasChannels cores then [l.started] else []

end Listener

namespace Relay

/-- What a relay meets. -/
inductive Action where
  /-- A datagram is read from the listener. -/
  | receive (d : Datagram)
  | readFailed (cause : IoError)
  /-- The datagram that waited leaves the read loop. -/
  | handOver
  /-- The manager takes the next datagram. -/
  | take
  /-- The manager has dealt with the datagram in its hand. -/
  | finish (o : Opening)
  | engine (a : Engine.Action)

/-- The read loop ends because nobody takes datagrams. -/
def fail (r : Relay) : Relay := { r with held := none, result := some .managerStopped }

/-- The read loop hands a datagram over, or holds it. -/
def handOn (r : Relay) (d : Datagram) : Relay :=
  match r.ingest.offer d with
  | (ingest, .taken) => { r with ingest, stalled := false }
  | (_, .closed) => r.fail
  | (_, .full) =>
    let r := { r with held := some d }
    if r.stalled then r
    else
      { r with
        stalled := true
        engine := { r.engine with stats.stalls := r.engine.stats.stalls + 1 }.record
          (.ingestStalled r.listen) }

/-- Whether the read loop waits for a datagram. -/
def isReading (r : Relay) : Bool := r.held.isNone && r.result.isNone

/-- Whether the manager waits for something to do. -/
def isFree (r : Relay) : Bool := r.engine.running && r.inHand.isNone

/-- Takes note of a datagram that was read. -/
def note (r : Relay) (d : Datagram) : Relay :=
  { r with
    received := r.received ++ [d]
    engine := { r.engine with stats.received := r.engine.stats.received + 1 } }

/-- A datagram is read, as far as the receive buffer holds it. -/
def receive (r : Relay) (d : Datagram) : Relay :=
  let d := d.truncate r.engine.settings.maxDatagramSize
  (r.note d).handOn d

/-- The channel follows the manager: without it, nobody receives. -/
def follow (r : Relay) : Relay :=
  if r.engine.running then r else { r with ingest := r.ingest.close }

/-- One action, if it is possible. -/
def act (r : Relay) (now : Instant) : Action → Option Relay
  | .receive d => if r.isReading then some (r.receive d) else none
  | .readFailed cause =>
    if r.isReading then
      some { r with
        engine := { r.engine with stats.readErrors := r.engine.stats.readErrors + 1 }.record
          (.datagramReadFailed r.listen cause.message) }
    else none
  | .handOver =>
    match r.held with
    | none => none
    | some d =>
      match r.ingest.offer d with
      | (ingest, .taken) => some { r with ingest, held := none }
      | (_, .closed) => some r.fail
      | (_, .full) => none
  | .take =>
    if r.isFree then
      r.ingest.next?.map fun (d, ingest) => { r with ingest, inHand := some d }
    else none
  | .finish o =>
    if r.engine.running then
      r.inHand.map fun d =>
        { r with inHand := none, engine := r.engine.handleDatagram now o d }.follow
    else none
  | .engine a =>
    if a.isTask || r.isFree then (r.engine.act now a).map fun engine => { r with engine }
    else none

/-- The states a relay can be in, with the time it is then. -/
inductive Reachable (start : Relay) : Instant → Relay → Prop where
  | start (now : Instant) : Reachable start now start
  | step {t now : Instant} {r r' : Relay} {a : Action} (before : Reachable start t r)
      (later : t ≤ now) (h : r.act now a = some r') : Reachable start now r'

/-- The relay without its tasks. -/
def abort (r : Relay) : Relay :=
  { r with held := none, inHand := none, engine := r.engine.stop }.follow

end Relay

end SocketRelay.Udp
