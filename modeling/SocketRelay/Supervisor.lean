import SocketRelay.Config.Basic
import SocketRelay.Tcp.Relay
import SocketRelay.Udp.Relay

/-!
# Supervising routes

A supervisor starts one relay per configured route and keeps track of how each
of them is doing. Routes do not depend on each other: one whose listener cannot
be bound is marked as failed, and the others serve.

A relay that ends leaves its outcome with its task. The supervisor learns of it
when it joins the task; what it has not joined when it shuts down is lost.
-/

namespace SocketRelay

open Net

/-- The status of a route. -/
inductive Status where
  /-- The listener is not bound yet. -/
  | starting
  | running
  /-- The relay ended without an error. -/
  | stopped
  /-- The relay could not start, or ended with an error. -/
  | failed (message : String)
  deriving DecidableEq, Repr, Inhabited

namespace Status

def text : Status → String
  | starting => "starting"
  | running => "running"
  | stopped => "stopped"
  | failed message => s!"failed: {message}"

def isRunning : Status → Bool
  | running => true
  | _ => false

def isFailed : Status → Bool
  | failed _ => true
  | _ => false

end Status

/-- The relay of a route, once its listener is bound. -/
inductive RouteRelay where
  | tcp (relay : Tcp.Relay)
  | udp (relay : Udp.Relay)
  /-- A UDP relay that ended before it read, with what it had logged. -/
  | udpEnded (listen : Endpoint) (log : List Event)
  deriving DecidableEq, Repr

namespace RouteRelay

/-- Starts a UDP relay. A machine without the memory for its receive buffer ends the whole program
with it, so the memory is taken to be there. -/
def startUdp (l : Udp.Listener) (cores : UInt64) (now : Instant) : RouteRelay :=
  match l.start? cores Udp.Payload.maxBuffer now with
  | some relay => udp relay
  | none => udpEnded l.listen (l.lastWords cores)

/-- Binds the listener of a route and starts its relay; `socket` is what binding gives. -/
def start (c : Config) (cores : UInt64) (now : Instant) (r : Route)
    (socket : Except IoError Endpoint) : Except String RouteRelay :=
  match r.protocol with
  | .tcp =>
    match Tcp.Listener.bind r.listenAddress r.targetAddress c.tcp socket with
    | .ok l => .ok (.tcp (l.start cores))
    | .error e => .error e.message
  | .udp =>
    match Udp.Listener.bind r.listenAddress r.targetAddress c.udp socket with
    | .ok l => .ok (startUdp l cores now)
    | .error e => .error e.message

def listen : RouteRelay → Endpoint
  | tcp relay => relay.listen
  | udp relay => relay.listen
  | udpEnded listen _ => listen

/-- The events that the relay logged. -/
def events : RouteRelay → List Event
  | tcp relay => relay.events
  | udp relay => relay.engine.log
  | udpEnded _ log => log

end RouteRelay

/-- A configured route and its state. -/
structure Entry where
  route : Route
  status : Status := .starting
  /-- Stays when the relay has ended. -/
  relay : Option RouteRelay := none
  deriving DecidableEq, Repr

/-- The events that the relay of a route logged. -/
def Entry.events (e : Entry) : List Event := e.relay.elim [] (·.events)

/-- A relay that was started and that the supervisor has not joined. -/
structure Task where
  /-- Which route it belongs to. -/
  route : Nat
  /-- How the relay ended, if it has. -/
  outcome : Option (Except String Unit) := none

structure Supervisor where
  config : Config
  entries : List Entry
  tasks : List Task := []
  /-- What the supervisor logged, and the relays that others have replaced, with the routes it is
  about. -/
  log : List (Nat × Event) := []

namespace Supervisor

/-- A supervisor that has started nothing. -/
def ofConfig (config : Config) : Supervisor where
  config
  entries := config.routes.map fun route => { route }

/-- How many routes are serving. -/
def running (s : Supervisor) : Nat := s.entries.countP (·.status.isRunning)

def setEntry (s : Supervisor) (i : Nat) (e : Entry) : Supervisor :=
  { s with entries := s.entries.set i e }

/-- Marks a route as failed, and logs it. -/
def fail (s : Supervisor) (i : Nat) (e : Entry) (message : String) : Supervisor :=
  { s.setEntry i { e with status := .failed message } with
    log := s.log ++ [(i, .relayFailed e.route.protocol e.route.listenAddress message)] }

/-- Starts the relay of a route. -/
def startRoute (cores : UInt64) (now : Instant) (s : Supervisor) (i : Nat)
    (socket : Except IoError Endpoint) : Supervisor :=
  match s.entries[i]? with
  | none => s
  | some e =>
    match RouteRelay.start s.config cores now e.route socket with
    | .error message => s.fail i e message
    | .ok relay =>
      { s.setEntry i { e with status := .running, relay := some relay } with
        tasks := s.tasks ++ [⟨i, none⟩]
        log := s.log ++ e.events.map (i, ·) }

/-- Starts the relays of all routes, one after the other; `sockets` says what binding the
listener of a route gives. -/
def startAll (cores : UInt64) (now : Instant) (sockets : Nat → Except IoError Endpoint)
    (s : Supervisor) : Supervisor :=
  (List.range s.entries.length).foldl (fun s i => s.startRoute cores now i (sockets i)) s

/-- Takes note of how a relay ended. -/
def settle (s : Supervisor) (i : Nat) (outcome : Except String Unit) : Supervisor :=
  match s.entries[i]? with
  | none => s
  | some e =>
    match outcome with
    | .ok () => s.setEntry i { e with status := .stopped }
    | .error message => s.fail i e message

/-- Ends all relays. A route that is still taken for serving has stopped. -/
def shutdown (s : Supervisor) : Supervisor :=
  { s with
    tasks := []
    entries := s.entries.map fun e =>
      if e.status.isRunning then { e with status := .stopped } else e }

/-- What a supervisor meets after it has started its routes. -/
inductive Action where
  /-- The relay of a task returns. -/
  | ended (task : Nat) (outcome : Except String Unit)
  /-- The relay of a task panics, with this told about it. -/
  | panicked (task : Nat) (reason : String)
  /-- The supervisor joins a task whose relay has ended. -/
  | join (task : Nat)
  | shutdown

/-- A relay leaves its outcome with its task. -/
def leave (s : Supervisor) (k : Nat) (outcome : Except String Unit) : Option Supervisor :=
  match s.tasks[k]? with
  | some ⟨i, none⟩ => some { s with tasks := s.tasks.set k ⟨i, some outcome⟩ }
  | _ => none

/-- One action, if it is possible. -/
def act (s : Supervisor) : Action → Option Supervisor
  | .ended k outcome => s.leave k outcome
  | .panicked k reason => s.leave k (.error s!"relay task aborted: {reason}")
  | .join k =>
    match s.tasks[k]? with
    | some ⟨i, some outcome⟩ =>
      some ({ s with tasks := s.tasks.eraseIdx k }.settle i outcome)
    | _ => none
  | .shutdown => some s.shutdown

/-- The states a supervisor can be in. -/
inductive Reachable (start : Supervisor) : Supervisor → Prop where
  | start : Reachable start start
  | step {s s' : Supervisor} {a : Action} (before : Reachable start s) (h : s.act a = some s') :
      Reachable start s'

/-- The endpoints that relays are bound to. -/
def listeners (s : Supervisor) : List (Protocol × Endpoint) :=
  (s.tasks.filter (·.outcome.isNone)).filterMap fun t => do
    let e ← s.entries[t.route]?
    return (e.route.protocol, (← e.relay).listen)

/-- Joins the tasks whose relays have ended, in order. -/
def joinEnded (s : Supervisor) : Supervisor :=
  let ended := s.tasks.filterMap fun t => t.outcome.map fun outcome => (t.route, outcome)
  ended.foldl (fun s (i, outcome) => s.settle i outcome)
    { s with tasks := s.tasks.filter (·.outcome.isNone) }

/-- Whether there is no task to wait for. -/
def isIdle (s : Supervisor) : Bool := s.tasks.isEmpty

/-- What was logged about a route: by its relay, and by the supervisor. -/
def eventsOf (s : Supervisor) (i : Nat) : List Event :=
  s.entries[i]?.elim [] (·.events) ++ (s.log.filter (·.1 = i)).map (·.2)

/-- Everything that was logged, route by route. -/
def events (s : Supervisor) : List Event :=
  (List.range s.entries.length).flatMap s.eventsOf

end Supervisor

end SocketRelay
