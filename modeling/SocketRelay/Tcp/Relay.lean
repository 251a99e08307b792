import SocketRelay.Tcp.Connection
import SocketRelay.Tcp.Settings
import SocketRelay.Tcp.Stats

/-!
# TCP relays

A relay accepts one client at a time and hands it to a free dial worker. The
worker dials the target, and on success leaves the pair to a pump, which relays
the connection and then settles its accounts. Every change of a counter and
every log record is an action of its own, so that all interleavings of the
accept loop, the workers and the pumps are runs; only a failed accept is counted
and logged at once.
-/

namespace SocketRelay.Tcp

open Net

/-- A relay with its listener bound that does not serve yet. -/
structure Listener where
  listen : Endpoint
  target : String
  settings : Settings
  deriving DecidableEq, Repr

/-- Binds a relay: `socket` is what binding the text gives if the settings are fit to run with. -/
def Listener.bind (text target : String) (settings : Settings)
    (socket : Except IoError Endpoint) : Except Error Listener := do
  settings.check
  let listen ← socket.mapError (.bind text)
  return ⟨listen, target, settings⟩

/-- An accepted client, with its number in the order of acceptance. -/
structure Client where
  number : Nat
  peer : Endpoint
  deriving DecidableEq, Repr

/-- What a busy dial worker does. -/
inductive WorkerStage where
  | dialing
  /-- The dial failed and is counted, but not logged yet. -/
  | refused (cause : IoError)
  /-- The connection is counted, but not logged yet. -/
  | connected (connection : Connection)
  deriving DecidableEq, Repr

structure Worker where
  client : Client
  stage : WorkerStage := .dialing
  deriving DecidableEq, Repr

/-- How far a pump is. -/
inductive PumpStage where
  | relaying
  /-- Both directions have ended. -/
  | ended
  /-- The bytes up are counted. -/
  | countedUp
  /-- The bytes down are counted. -/
  | countedDown
  /-- An error of the copy to the remote is logged. -/
  | reportedUp
  /-- An error of the copy to the client is logged. -/
  | reportedDown
  /-- The connection is not counted as active any more. -/
  | inactive
  /-- The connection is counted as completed. -/
  | completed
  /-- The end of the connection is logged. -/
  | closed
  deriving DecidableEq, Repr

structure Pump where
  client : Client
  connection : Connection
  stage : PumpStage := .relaying
  deriving DecidableEq, Repr

/-- A log record, with the number of the client it is about. -/
structure Record where
  client : Option Nat
  event : Event
  deriving DecidableEq, Repr

structure Relay where
  listen : Endpoint
  target : String
  settings : Settings
  /-- How many dial workers there are. -/
  workerCount : Nat
  /-- The number of the next client. -/
  nextClient : Nat := 0
  /-- The client that waits for a free worker. -/
  held : Option Client := none
  /-- The busy workers. -/
  workers : List Worker := []
  /-- The pumps of all connections that were opened. -/
  pumps : List Pump := []
  stats : Stats := {}
  log : List Record := []
  deriving DecidableEq, Repr

/-- Starts the workers and the accept loop. -/
def Listener.start (l : Listener) (cores : UInt64) : Relay where
  listen := l.listen
  target := l.target
  settings := l.settings
  workerCount := (l.settings.workerCount cores).toNat
  log := [⟨none, .relayStarted .tcp l.listen l.target⟩]

namespace Relay

def record (r : Relay) (client : Option Nat) (event : Event) : Relay :=
  { r with log := r.log ++ [⟨client, event⟩] }

/-- The events that were logged. -/
def events (r : Relay) : List Event := r.log.map (·.event)

/-- What a relay meets. -/
inductive Action where
  /-- A client connects. -/
  | accept (peer : Endpoint)
  | acceptFailed (cause : IoError)
  /-- A free worker takes the client that waits. -/
  | handOff
  /-- The dial of a worker ends, with the ends of a connection or an error. -/
  | dialed (worker : Nat) (result : Except IoError Ends)
  /-- A worker logs how its dial ended, and is free again. -/
  | announce (worker : Nat)
  /-- One direction of a connection goes on. -/
  | copy (pump : Nat) (d : Direction) (input : CopyInput)
  /-- A pump goes on to its next stage. -/
  | settle (pump : Nat)

/-- Logs the error of a direction, if it ended with one. -/
def reportCopy (r : Relay) (p : Pump) (d : Direction) : Relay :=
  match (p.connection.transfer d).copy.failure with
  | some cause =>
    r.record (some p.client.number) (.copyFailed p.client.peer r.target d cause.message)
  | none => r

/-- A pump goes on to its next stage. -/
def settlePump (r : Relay) (p : Pump) : Option (PumpStage × Relay) :=
  match p.stage with
  | .relaying => if p.connection.isDone then some (.ended, r) else none
  | .ended =>
    some (.countedUp, { r with stats.bytesUp := r.stats.bytesUp + p.connection.up.copy.bytes })
  | .countedUp =>
    some (.countedDown,
      { r with stats.bytesDown := r.stats.bytesDown + p.connection.down.copy.bytes })
  | .countedDown => some (.reportedUp, r.reportCopy p .up)
  | .reportedUp => some (.reportedDown, r.reportCopy p .down)
  | .reportedDown => some (.inactive, { r with stats.active := r.stats.active - 1 })
  | .inactive => some (.completed, { r with stats.completed := r.stats.completed + 1 })
  | .completed =>
    let up := p.connection.up.copy.bytes
    let down := p.connection.down.copy.bytes
    some (.closed,
      r.record (some p.client.number) (.connectionClosed p.client.peer r.target up down))
  | .closed => none

/-- The dial of a worker ends. -/
def endDial (r : Relay) (i : Nat) (w : Worker) : Except IoError Ends → Relay
  | .error cause =>
    { r with
      workers := r.workers.set i { w with stage := .refused cause }
      stats.dialFailures := r.stats.dialFailures + 1 }
  | .ok ends =>
    { r with
      workers := r.workers.set i
        { w with stage := .connected (.start r.settings.bufferSize ends) }
      stats.active := r.stats.active + 1 }

/-- One action, if it is possible. -/
def act (r : Relay) : Action → Option Relay
  | .accept peer =>
    match r.held with
    | some _ => none
    | none =>
      some { r with
        held := some ⟨r.nextClient, peer⟩
        nextClient := r.nextClient + 1
        stats.accepted := r.stats.accepted + 1 }
  | .acceptFailed cause =>
    match r.held with
    | some _ => none
    | none =>
      some ({ r with stats.acceptErrors := r.stats.acceptErrors + 1 }.record none
        (.acceptFailed r.listen cause.message))
  | .handOff =>
    match r.held with
    | none => none
    | some client =>
      if r.workers.length < r.workerCount then
        some { r with held := none, workers := r.workers ++ [⟨client, .dialing⟩] }
      else none
  | .dialed i result =>
    match r.workers[i]? with
    | none => none
    | some w =>
      match w.stage with
      | .dialing => some (r.endDial i w result)
      | _ => none
  | .announce i =>
    match r.workers[i]? with
    | none => none
    | some w =>
      let free : Relay := { r with workers := r.workers.eraseIdx i }
      let number := some w.client.number
      match w.stage with
      | .dialing => none
      | .refused cause =>
        some (free.record number (.connectionDialFailed w.client.peer r.target cause.message))
      | .connected connection =>
        let pump : Pump := { client := w.client, connection }
        some ({ free with pumps := r.pumps ++ [pump] }.record number
          (.connectionOpened w.client.peer r.target))
  | .copy i d input =>
    match r.pumps[i]? with
    | none => none
    | some p =>
      (p.connection.step d input).map fun connection =>
        { r with pumps := r.pumps.set i { p with connection } }
  | .settle i =>
    match r.pumps[i]? with
    | none => none
    | some p =>
      (r.settlePump p).map fun (stage, r) => { r with pumps := r.pumps.set i { p with stage } }

/-- The states a relay can be in. -/
inductive Reachable (start : Relay) : Relay → Prop where
  | start : Reachable start start
  | step {r r' : Relay} {a : Action} (before : Reachable start r) (h : r.act a = some r') :
      Reachable start r'

end Relay

end SocketRelay.Tcp
