import SocketRelay.Udp.Error
import SocketRelay.Udp.Session
import SocketRelay.Udp.Settings
import SocketRelay.Udp.Stats

/-!
# The sessions of a UDP relay

An `Engine` is the manager of a route's sessions with the tasks of all its
sessions. The manager alone changes the table: it opens a session for the first
datagram of a client, removes sessions that are idle or reported, and lists
them. A removed session stays on with its queue closed until its tasks have
ended.

The outside is a parameter. Whatever a lookup, a dial, a socket or the clock may
answer comes with the step that asks.
-/

namespace SocketRelay.Udp

open Net

/-- A reply that was written to a client through the shared listener. -/
structure Delivery where
  client : Endpoint
  /-- The session that wrote it. -/
  id : UInt64
  payload : Payload
  deriving DecidableEq, Repr

/-- A report as a task made it. -/
structure Raised where
  time : Instant
  report : Report
  /-- What became of it. -/
  fate : Channel.Offered
  deriving DecidableEq, Repr

structure Engine where
  target : String
  settings : Settings
  /-- Whether the manager is there. -/
  running : Bool
  /-- The sessions by the texts of their clients' addresses. -/
  table : List (String × Session) := []
  /-- Sessions that were removed, in the order of their removal. -/
  removed : List Session := []
  /-- The number of the session created last. -/
  lastId : UInt64 := 0
  /-- The address that the first successful lookup gave. -/
  resolved : Option Endpoint := none
  /-- Failure reports on their way to the manager. -/
  reports : Channel Report
  stats : Stats := {}
  log : List Event := []
  delivered : List Delivery := []
  /-- The datagrams that the manager dealt with, each with the time. -/
  handled : List (Instant × Datagram) := []
  /-- The datagrams whose session could not be opened. -/
  refused : List Datagram := []
  /-- The datagrams that found the queue of their session full or closed. -/
  dropped : List Datagram := []
  /-- The reports that tasks made, whether or not they reached the manager. -/
  raised : List Raised := []
  deriving DecidableEq, Repr

/-- What the outside answers when a session is opened. -/
structure Opening where
  /-- The addresses of the target, if it has to be looked up. -/
  lookup : Except IoError (List Endpoint)
  /-- Whether a socket could be bound and connected. -/
  dial : Except IoError Unit

namespace Engine

/-- Whether a manager can sweep at this interval from `now` on: it has to take time, and the time
of the first sweep has to be told. -/
def canSweep (now : Instant) (interval : Duration) : Bool :=
  !interval.isZero && now.reaches interval

/-- A manager that starts at `now`. There is none if it cannot sweep. -/
def start (target : String) (settings : Settings) (now : Instant) : Engine where
  target
  settings
  running := canSweep now settings.sweepInterval
  reports :=
    { capacity := settings.eventQueue.toNat, closed := !canSweep now settings.sweepInterval }

def record (e : Engine) (event : Event) : Engine := { e with log := e.log ++ [event] }

/-- The session of a key. -/
def session? (e : Engine) (key : String) : Option Session := e.table.lookup key

/-- Changes the session of a key. -/
def update (e : Engine) (key : String) (f : Session → Session) : Engine :=
  { e with table := e.table.map fun (k, s) => if k = key then (k, f s) else (k, s) }

/-- The engine when the manager is gone: no session has its queue open. -/
def stop (e : Engine) : Engine :=
  { e with
    running := false
    table := []
    removed := e.removed ++ e.table.map (·.2)
    reports := e.reports.close }

/-! ## Datagrams -/

/-- The address of the target: the one found before, or the first that the lookup gives. -/
def resolve (e : Engine) (lookup : Except IoError (List Endpoint)) : Except Error Endpoint :=
  match e.resolved with
  | some remote => .ok remote
  | none =>
    match lookup with
    | .error cause => .error (.resolve e.target cause)
    | .ok [] => .error (.noAddress e.target)
    | .ok (remote :: _) => .ok remote

/-- The event of a session that could not be opened. -/
def openFailure (e : Engine) (client : Endpoint) (error : Error) : Event :=
  match error with
  | .resolve .. | .noAddress _ => .targetResolveFailed e.target error.message
  | _ => .sessionDialFailed client e.target error.message

/-- The datagram is lost because its session could not be opened. -/
def refuse (e : Engine) (now : Instant) (d : Datagram) (error : Error) : Engine :=
  { e with
    handled := e.handled ++ [(now, d)]
    refused := e.refused ++ [d]
    stats.dialFailures := e.stats.dialFailures + 1 }.record (e.openFailure d.source error)

/-- Puts a datagram into the queue of a session, and notes that the client is active in any
case. -/
def enqueue (e : Engine) (now : Instant) (s : Session) (key : String) (d : Datagram) : Engine :=
  let touch (s : Session) : Session := { s with clock := s.clock.touch now }
  let e := { e with handled := e.handled ++ [(now, d)] }
  match s.forwarder.offer d.payload with
  | some f => e.update key fun s => touch { s with forwarder := f }
  | none =>
    { e.update key touch with
      dropped := e.dropped ++ [d]
      stats.dropped := e.stats.dropped + 1 }.record (.datagramDropped d.source)

/-- Puts a new session into the table. -/
def create (e : Engine) (now : Instant) (client remote : Endpoint) : Engine :=
  let id := e.lastId + 1
  let s := Session.start id client remote e.settings.outboundQueue.toNat now
  { e with
    lastId := id
    table := e.table ++ [(client.text, s)]
    stats.created := e.stats.created + 1 }.record (.sessionCreated client id remote)

/-- Opens a session. The address of the target stays known even if the dial fails; a queue of
impossible size ends the manager. -/
def openSession (e : Engine) (now : Instant) (o : Opening) (client : Endpoint) :
    Except Error Unit × Engine :=
  match e.resolve o.lookup with
  | .error error => (.error error, e)
  | .ok remote =>
    let e := { e with resolved := some remote }
    match o.dial with
    | .error cause => (.error (.dial e.target cause), e)
    | .ok () =>
      if Channel.canHave e.settings.outboundQueue.toNat then (.ok (), e.create now client remote)
      else (.ok (), e.stop)

/-- Puts a datagram into the queue of its client's session, if there is one. -/
def deliver (e : Engine) (now : Instant) (d : Datagram) : Engine :=
  match e.session? d.source.text with
  | some s => e.enqueue now s d.source.text d
  | none => e

/-- The manager takes a datagram. -/
def handleDatagram (e : Engine) (now : Instant) (o : Opening) (d : Datagram) : Engine :=
  match e.session? d.source.text with
  | some _ => e.deliver now d
  | none =>
    match e.openSession now o d.source with
    | (.ok (), e) => e.deliver now d
    | (.error error, e) => e.refuse now d error

/-! ## Removal -/

/-- Removes the session of a key. -/
def evict (e : Engine) (key : String) (reason : EvictionReason) : Engine :=
  match e.session? key with
  | none => e
  | some s =>
    { e with
      table := e.table.filter (·.1 ≠ key)
      removed := e.removed ++ [s]
      stats.evicted := e.stats.evicted + 1 }.record (.sessionEvicted s.client reason)

/-- The keys of idle sessions, in the order in which the table is gone through. -/
def idleKeys (e : Engine) (now : Instant) (order : List String) : List String :=
  order.filter fun key => (e.session? key).any (·.isIdle e.settings.idleTimeout now)

/-- Removes the sessions that are idle. -/
def sweep (e : Engine) (now : Instant) (order : List String) : Engine :=
  (e.idleKeys now order).foldl (fun e key => e.evict key .idle) e

/-- Removes the session that a report is about, if it is still that session. -/
def handleReport (e : Engine) (r : Report) : Engine :=
  match e.session? r.key with
  | some s => if s.id = r.id then e.evict r.key (.failure r.reason) else e
  | none => e

/-! ## Listing -/

/-- What these sessions show of themselves, in the order of their numbers. -/
def listing (now : Instant) (sessions : List Session) : List SessionInfo :=
  (sessions.map (·.info now)).mergeSort fun a b => decide (a.id ≤ b.id)

/-- All sessions in the order of their numbers. -/
def snapshot (e : Engine) (now : Instant) : List SessionInfo := listing now (e.table.map (·.2))

/-- All sessions, as long as there is a manager to ask. -/
def sessions (e : Engine) (now : Instant) : Except Error (List SessionInfo) :=
  if e.running then .ok (e.snapshot now) else .error .managerStopped

/-- How many sessions there are, as long as there is a manager to ask. -/
def sessionCount (e : Engine) (now : Instant) : Except Error Nat :=
  (e.sessions now).map List.length

/-! ## Tasks -/

/-- Which session a step is about. -/
inductive Place where
  | live (key : String)
  | removed (index : Nat)
  deriving DecidableEq, Repr

/-- What a task of a session meets. -/
inductive TaskInput where
  | forwarder (input : ForwarderInput)
  /-- The remote sent a datagram. -/
  | heard (p : Payload)
  | readFailed (cause : IoError)
  /-- The remote sent nothing in time. -/
  | readDeadline
  | responded
  | respondFailed (cause : IoError)
  /-- The session is removed. -/
  | shutdown
  deriving DecidableEq, Repr

/-- A task gives up. -/
def fail (e : Engine) (now : Instant) (s : Session) (reason : FailureReason)
    (cause : Option (SessionOp × IoError)) : Engine :=
  let e := match cause with
    | some (op, cause) => e.record (.sessionIoFailed s.client op cause.message)
    | none => e
  let report := s.reporter.report reason
  let e := { e with raised := e.raised ++ [Raised.mk now report (e.reports.offer report).2] }
  match s.reporter.fail reason e.reports with
  | (reports, none) => { e with reports }
  | (reports, some event) =>
    { e with reports, stats.overflows := e.stats.overflows + 1 }.record event

/-- What a step of a session's task means to the engine. -/
def apply (e : Engine) (now : Instant) (s : Session) : Effect → Engine
  | .none => e
  | .forwarded => { e with stats.forwarded := e.stats.forwarded + 1 }
  | .replied p =>
    { e with
      stats.replied := e.stats.replied + 1
      delivered := e.delivered ++ [⟨s.client, s.id, p⟩] }
  | .failed reason cause => e.fail now s reason cause

/-- One step of a task of a session; `isOpen` says whether the session is in the table. -/
def stepSession (e : Engine) (now : Instant) (s : Session) (isOpen : Bool) :
    TaskInput → Option (Session × Effect)
  | .forwarder input =>
    (s.forwarder.step isOpen input).map fun (f, effect) => ({ s with forwarder := f }, effect)
  | .heard p => replier (.heard p)
  | .readFailed cause => replier (.readFailed cause)
  | .readDeadline => replier (.readDeadline (s.clock.idle now))
  | .responded => replier .responded
  | .respondFailed cause => replier (.respondFailed cause)
  | .shutdown => if isOpen then none else replier .shutdown
where
  replier (input : ReplierInput) : Option (Session × Effect) :=
    (s.replier.step e.settings.maxDatagramSize e.settings.idleTimeout input).map
      fun (r, effect) => ({ s with replier := r }, effect)

/-- One step of a task, if it is possible. -/
def stepTask (e : Engine) (now : Instant) (place : Place) (input : TaskInput) :
    Option Engine :=
  match place with
  | .live key => do
    let s ← e.session? key
    let (s', effect) ← e.stepSession now s true input
    return (e.update key fun _ => s').apply now s effect
  | .removed index => do
    let s ← e.removed[index]?
    let (s', effect) ← e.stepSession now s false input
    return ({ e with removed := e.removed.set index s' }).apply now s effect

/-! ## Runs -/

/-- What an engine meets besides datagrams. -/
inductive Action where
  /-- The manager goes through the table in this order. -/
  | sweep (order : List String)
  /-- The manager takes the next report. -/
  | report
  /-- The manager lists its sessions for somebody. -/
  | query
  | task (place : Place) (input : TaskInput)
  deriving DecidableEq, Repr

/-- Whether an action is one of a task, and not one of the manager. -/
def Action.isTask : Action → Bool
  | .task .. => true
  | .sweep _ | .report | .query => false

/-- One action, if it is possible. -/
def act (e : Engine) (now : Instant) : Action → Option Engine
  | .sweep order =>
    if e.running ∧ order.Perm (e.table.map (·.1)) then some (e.sweep now order) else none
  | .report =>
    if e.running then
      e.reports.next?.map fun (r, reports) => ({ e with reports }).handleReport r
    else none
  | .query => if e.running then some e else none
  | .task place input => e.stepTask now place input

/-- What a manager and its sessions meet, with reports from anywhere. -/
inductive Input where
  | datagram (now : Instant) (o : Opening) (d : Datagram)
  | sweep (now : Instant) (order : List String)
  | report (r : Report)
  | query (now : Instant)
  | task (now : Instant) (place : Place) (input : TaskInput)

/-- One input; what is not possible changes nothing. -/
def handle (e : Engine) : Input → Engine
  | .datagram now o d => if e.running then e.handleDatagram now o d else e
  | .sweep now order => if e.running then e.sweep now order else e
  | .report r => if e.running then e.handleReport r else e
  | .query _ => e
  | .task now place input => (e.stepTask now place input).getD e

/-- The engine after inputs in order. -/
def run (e : Engine) (inputs : List Input) : Engine := inputs.foldl handle e

end Engine

end SocketRelay.Udp
