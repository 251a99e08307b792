import SocketRelay.Channel
import SocketRelay.Event
import SocketRelay.Net.IoError
import SocketRelay.Time

/-!
# UDP sessions

A session gives one client a socket of its own towards the remote. Its forwarder
writes the client's datagrams to that socket in order; its replier writes what
comes back to the client. Either gives up at its first failure and reports it
once, without waiting.

A forwarder or replier moves by `Forwarder.step` and `Replier.step`, which say
what each kind of progress does and when it is possible. The payloads that went
by are kept, in order.
-/

namespace SocketRelay.Udp

open Net

abbrev Payload := List UInt8

structure Datagram where
  source : Endpoint
  payload : Payload
  deriving DecidableEq, Repr

/-- The most bytes a buffer can have. -/
def Payload.maxBuffer : Nat := 0x7FFFFFFFFFFFFFFF

/-- Whether there can be a receive buffer of `size` bytes where `memory` bytes can be had. -/
def Payload.canBuffer (memory : Nat) (size : UInt64) : Bool :=
  size.toNat ≤ maxBuffer && size.toNat ≤ memory

/-- A payload as a receive buffer of `size` bytes holds it: without the bytes that do not fit. -/
def Payload.truncate (p : Payload) (size : UInt64) : Payload := p.take size.toNat

def Datagram.truncate (d : Datagram) (size : UInt64) : Datagram :=
  { d with payload := d.payload.truncate size }

/-! ## Activity -/

/-- When a client was last heard from, in whole milliseconds since the session began. -/
structure ActivityClock where
  origin : Instant
  lastMs : UInt64
  deriving DecidableEq, Repr

namespace ActivityClock

def start (now : Instant) : ActivityClock := ⟨now, 0⟩

def touch (c : ActivityClock) (now : Instant) : ActivityClock :=
  { c with lastMs := (now.since c.origin).millis.toUInt64 }

/-- How long the client has been silent. -/
def idle (c : ActivityClock) (now : Instant) : Duration :=
  (now.since c.origin).minus (.ofMillis c.lastMs)

end ActivityClock

/-! ## Reports -/

/-- A task of a session asks the manager to remove the session. -/
structure Report where
  key : String
  id : UInt64
  reason : FailureReason
  deriving DecidableEq, Repr

/-- What a task of a session needs to report. -/
structure Reporter where
  key : String
  id : UInt64
  client : Endpoint
  deriving DecidableEq, Repr

namespace Reporter

def report (r : Reporter) (reason : FailureReason) : Report := ⟨r.key, r.id, reason⟩

/-- Offers a report to the manager. If the channel is full, the report is lost and an event says
so; if the manager is gone, nobody needs it. -/
def fail (r : Reporter) (reason : FailureReason) (reports : Channel Report) :
    Channel Report × Option Event :=
  let (reports, offered) := reports.offer (r.report reason)
  (reports, if offered = .full then some (.eventQueueFull r.client reason) else none)

end Reporter

/-! ## Forwarders -/

inductive ForwarderPhase where
  /-- Waiting for a datagram. -/
  | receiving
  | writing (p : Payload)
  /-- The queue was closed and everything in it is written. -/
  | finished
  /-- The payload could not be written. -/
  | failed (p : Payload)
  deriving DecidableEq, Repr

structure Forwarder where
  capacity : Nat
  queue : List Payload := []
  phase : ForwarderPhase := .receiving
  /-- Everything that was ever put into the queue. -/
  accepted : List Payload := []
  /-- Everything that was written to the remote. -/
  sent : List Payload := []
  deriving DecidableEq, Repr

/-- What a step of a task means to the rest of the relay. -/
inductive Effect where
  | none
  /-- A datagram was written to the remote. -/
  | forwarded
  /-- A reply was written to the client. -/
  | replied (p : Payload)
  /-- The task gave up, perhaps because of an error of a socket. -/
  | failed (reason : FailureReason) (cause : Option (SessionOp × IoError))
  deriving DecidableEq, Repr

/-- What a forwarder meets. -/
inductive ForwarderInput where
  /-- The next datagram leaves the queue. -/
  | take
  | written
  | writeFailed (cause : IoError)
  /-- The write did not end in time. -/
  | writeDeadline
  /-- The queue is closed and empty. -/
  | closed
  deriving DecidableEq, Repr

namespace Forwarder

def isAlive (f : Forwarder) : Bool :=
  match f.phase with
  | .receiving | .writing _ => true
  | .finished | .failed _ => false

/-- Puts a payload into the queue, unless it is full or the forwarder has ended. -/
def offer (f : Forwarder) (p : Payload) : Option Forwarder :=
  if f.isAlive && f.queue.length < f.capacity then
    some { f with queue := f.queue ++ [p], accepted := f.accepted ++ [p] }
  else none

/-- One step; `isOpen` says whether the manager still holds the queue. -/
def step (f : Forwarder) (isOpen : Bool) : ForwarderInput → Option (Forwarder × Effect)
  | .take =>
    match f.phase, f.queue with
    | .receiving, p :: rest => some ({ f with queue := rest, phase := .writing p }, .none)
    | _, _ => none
  | .written =>
    match f.phase with
    | .writing p => some ({ f with phase := .receiving, sent := f.sent ++ [p] }, .forwarded)
    | _ => none
  | .writeFailed cause => giveUp cause
  | .writeDeadline => giveUp .writeDeadline
  | .closed =>
    match f.phase, f.queue with
    | .receiving, [] => if isOpen then none else some ({ f with phase := .finished }, .none)
    | _, _ => none
where
  giveUp (cause : IoError) : Option (Forwarder × Effect) :=
    match f.phase with
    | .writing p =>
      some ({ f with phase := .failed p }, .failed .write (some (.forward, cause)))
    | _ => none

end Forwarder

/-! ## Repliers -/

inductive ReplierPhase where
  /-- Waiting for a reply of the remote. -/
  | waiting
  | responding (p : Payload)
  /-- The session was removed. -/
  | stopped
  | failed (reason : FailureReason)
  deriving DecidableEq, Repr

structure Replier where
  phase : ReplierPhase := .waiting
  /-- Everything that was read from the remote. -/
  heard : List Payload := []
  /-- Everything that was written to the client. -/
  answered : List Payload := []
  deriving DecidableEq, Repr

/-- What a replier meets. -/
inductive ReplierInput where
  /-- The remote sent a datagram. -/
  | heard (p : Payload)
  | readFailed (cause : IoError)
  /-- The remote sent nothing in time, and the client has been silent for `idle`. -/
  | readDeadline (idle : Duration)
  | responded
  | respondFailed (cause : IoError)
  /-- The session is removed. -/
  | shutdown
  deriving DecidableEq, Repr

namespace Replier

def isAlive (r : Replier) : Bool :=
  match r.phase with
  | .waiting | .responding _ => true
  | .stopped | .failed _ => false

/-- One step; the receive buffer has `bufferSize` bytes, and a client silent for `idleTimeout`
is given up. -/
def step (r : Replier) (bufferSize : UInt64) (idleTimeout : Duration) :
    ReplierInput → Option (Replier × Effect)
  | .heard p =>
    match r.phase with
    | .waiting =>
      let p := Payload.truncate p bufferSize
      some ({ r with phase := .responding p, heard := r.heard ++ [p] }, .none)
    | _ => none
  | .readFailed cause =>
    match r.phase with
    | .waiting =>
      some ({ r with phase := .failed .read }, .failed .read (some (.readReply, cause)))
    | _ => none
  | .readDeadline idle =>
    match r.phase with
    | .waiting =>
      if idle < idleTimeout then some (r, .none)
      else some ({ r with phase := .failed .remoteIdle }, .failed .remoteIdle none)
    | _ => none
  | .responded =>
    match r.phase with
    | .responding p =>
      some ({ r with phase := .waiting, answered := r.answered ++ [p] }, .replied p)
    | _ => none
  | .respondFailed cause =>
    match r.phase with
    | .responding _ =>
      some ({ r with phase := .failed .respond }, .failed .respond (some (.respond, cause)))
    | _ => none
  | .shutdown =>
    match r.phase with
    | .waiting => some ({ r with phase := .stopped }, .none)
    | _ => none

end Replier

/-! ## Sessions -/

structure Session where
  id : UInt64
  client : Endpoint
  remote : Endpoint
  clock : ActivityClock
  forwarder : Forwarder
  replier : Replier := {}
  deriving DecidableEq, Repr

/-- What a session shows of itself. -/
structure SessionInfo where
  id : UInt64
  client : Endpoint
  remote : Endpoint
  idle : Duration
  deriving DecidableEq, Repr

namespace Session

/-- A session without a datagram. -/
def start (id : UInt64) (client remote : Endpoint) (capacity : Nat) (now : Instant) : Session :=
  { id, client, remote, clock := .start now, forwarder := { capacity } }

/-- Whether the client has been silent longer than the threshold. -/
def isIdle (s : Session) (threshold : Duration) (now : Instant) : Bool :=
  threshold < s.clock.idle now

theorem isIdle_iff {s : Session} {threshold : Duration} {now : Instant} :
    s.isIdle threshold now = true ↔ threshold < s.clock.idle now := decide_eq_true_iff

def info (s : Session) (now : Instant) : SessionInfo :=
  ⟨s.id, s.client, s.remote, s.clock.idle now⟩

def reporter (s : Session) : Reporter := ⟨s.client.text, s.id, s.client⟩

end Session

end SocketRelay.Udp
