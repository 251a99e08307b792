import SocketRelay.Log.Level
import SocketRelay.Route

/-!
# Relay events

What a relay tells about its life. An event has a level, a short name for
machines and one line of text for people.
-/

namespace SocketRelay

open Net

/-- The way bytes flow through a TCP relay. -/
inductive Direction where
  /-- From the client to the remote. -/
  | up
  /-- From the remote to the client. -/
  | down
  deriving DecidableEq, Repr, Inhabited

namespace Direction

def text : Direction → String
  | up => "client to server"
  | down => "server to client"

instance : ToString Direction := ⟨text⟩

end Direction

/-- Why a task of a UDP session gave up. -/
inductive FailureReason where
  /-- A write to the remote failed or took too long. -/
  | write
  | read
  /-- A reply could not be written to the client. -/
  | respond
  /-- The remote stayed silent while the client was idle. -/
  | remoteIdle
  deriving DecidableEq, Repr, Inhabited

namespace FailureReason

def text : FailureReason → String
  | write => "write failure"
  | read => "read failure"
  | respond => "respond failure"
  | remoteIdle => "remote idle timeout"

instance : ToString FailureReason := ⟨text⟩

end FailureReason

/-- Why a UDP session was removed. -/
inductive EvictionReason where
  | idle
  | failure (reason : FailureReason)
  deriving DecidableEq, Repr, Inhabited

namespace EvictionReason

def text : EvictionReason → String
  | idle => "idle timeout"
  | failure reason => reason.text

end EvictionReason

/-- A socket operation of a UDP session. -/
inductive SessionOp where
  | forward
  | readReply
  | respond
  deriving DecidableEq, Repr, Inhabited

namespace SessionOp

def text : SessionOp → String
  | forward => "sending UDP payload"
  | readReply => "reading UDP reply"
  | respond => "writing UDP reply"

instance : ToString SessionOp := ⟨text⟩

end SessionOp

inductive Event where
  | relayStarted (protocol : Protocol) (listen : Endpoint) (target : String)
  | relayFailed (protocol : Protocol) (listen error : String)
  | acceptFailed (listen : Endpoint) (error : String)
  | connectionOpened (peer : Endpoint) (target : String)
  | connectionDialFailed (peer : Endpoint) (target error : String)
  | copyFailed (peer : Endpoint) (target : String) (direction : Direction) (error : String)
  | connectionClosed (peer : Endpoint) (target : String) (bytesUp bytesDown : UInt64)
  | datagramReadFailed (listen : Endpoint) (error : String)
  /-- The read loop has to wait for the manager. -/
  | ingestStalled (listen : Endpoint)
  | targetResolveFailed (target error : String)
  | sessionDialFailed (client : Endpoint) (target error : String)
  | sessionCreated (client : Endpoint) (id : UInt64) (remote : Endpoint)
  /-- A datagram found the queue of its session full or closed. -/
  | datagramDropped (client : Endpoint)
  | sessionIoFailed (client : Endpoint) (op : SessionOp) (error : String)
  /-- A failure report found its queue full. -/
  | eventQueueFull (client : Endpoint) (reason : FailureReason)
  | sessionEvicted (client : Endpoint) (reason : EvictionReason)
  deriving DecidableEq, Repr, Inhabited

namespace Event

def level : Event → Log.Level
  | relayFailed .. => .error
  | acceptFailed .. | connectionDialFailed .. | copyFailed .. | datagramReadFailed ..
  | ingestStalled .. | targetResolveFailed .. | sessionDialFailed .. | datagramDropped ..
  | sessionIoFailed .. | eventQueueFull .. => .warn
  | relayStarted .. | connectionOpened .. | connectionClosed .. | sessionCreated ..
  | sessionEvicted .. => .info

/-- A short name for machines. -/
def kind : Event → String
  | relayStarted .. => "relay_started"
  | relayFailed .. => "relay_failed"
  | acceptFailed .. => "accept_failed"
  | connectionOpened .. => "connection_opened"
  | connectionDialFailed .. => "connection_dial_failed"
  | copyFailed .. => "copy_failed"
  | connectionClosed .. => "connection_closed"
  | datagramReadFailed .. => "datagram_read_failed"
  | ingestStalled .. => "ingest_stalled"
  | targetResolveFailed .. => "target_resolve_failed"
  | sessionDialFailed .. => "session_dial_failed"
  | sessionCreated .. => "session_created"
  | datagramDropped .. => "datagram_dropped"
  | sessionIoFailed .. => "session_io_failed"
  | eventQueueFull .. => "event_queue_full"
  | sessionEvicted .. => "session_evicted"

def line : Event → String
  | relayStarted protocol listen target =>
    s!"{protocol} relay started on {listen} forwarding to {target}"
  | relayFailed protocol listen error =>
    s!"Failed to start {protocol} relay on {listen}: {error}"
  | acceptFailed listen error => s!"Error accepting TCP connection on {listen}: {error}"
  | connectionOpened peer target => s!"New TCP connection: {peer} -> {target}"
  | connectionDialFailed peer target error =>
    s!"Failed to connect to TCP server {target} for {peer}: {error}"
  | copyFailed peer target direction error =>
    s!"Error copying {direction} ({peer} <-> {target}): {error}"
  | connectionClosed peer target up down =>
    s!"TCP connection closed: {peer} -> {target} ({up} bytes up, {down} bytes down)"
  | datagramReadFailed listen error => s!"Error reading UDP packet on {listen}: {error}"
  | ingestStalled listen =>
    s!"UDP ingestion queue full on {listen}; read loop waiting for the session manager"
  | targetResolveFailed target error => s!"Failed to resolve UDP target {target}: {error}"
  | sessionDialFailed client target error =>
    s!"Failed to dial UDP target {target} for {client}: {error}"
  | sessionCreated client id remote => s!"Opened UDP session #{id} for {client} via {remote}"
  | datagramDropped client => s!"Dropping UDP packet for {client} due to full queue"
  | sessionIoFailed client op error => s!"Error {op} for {client}: {error}"
  | eventQueueFull client reason =>
    s!"Session event queue full; leaking UDP session {client} due to {reason}"
  | sessionEvicted client .idle => s!"Closed idle UDP session for {client}"
  | sessionEvicted client (.failure reason) => s!"Closed UDP session for {client} due to {reason}"

/-- The client of a UDP session that the event is about. -/
def client? : Event → Option Endpoint
  | sessionDialFailed client .. | sessionCreated client .. | datagramDropped client
  | sessionIoFailed client .. | eventQueueFull client .. | sessionEvicted client .. => some client
  | _ => none

end Event

end SocketRelay
