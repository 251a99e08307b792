import SocketRelay.Live.TcpRoute
import SocketRelay.Live.UdpRoute
import SocketRelay.Machine
import SocketRelay.Program
import Std.Async.Signal
import Std.Time

/-!
# The machine of a run

The machine that the operating system offers: its files, its sockets and its
interrupts.
-/

namespace SocketRelay.Live

open SocketRelay.Net
open Std.Async

/-- A socket that a listener was bound to. -/
inductive BoundSocket where
  | tcp (socket : TCP.Socket.Server)
  | udp (socket : UDP.Socket)

/-- What a run has opened. -/
structure Opened where
  sockets : IO.Ref (List (Protocol × Endpoint × BoundSocket))
  files : IO.Ref (List (String × IO.FS.Handle))

/-! ## Files -/

/-- Errors after which a path leads nowhere. -/
def absences : List IoError := [.notFound, .notADirectory, .nameTooLong, .tooManyLinks]

def readFile (path : String) : IO Config.FileContent := do
  if path.contains '\x00' then return .absent
  match ← attempt (IO.FS.readBinFile path) with
  | .ok content => return .bytes content
  | .error cause => return if absences.contains cause then .absent else .unreadable cause

def openFile (o : Opened) (path : String) : IO (Except IoError Unit) := do
  if path.contains '\x00' then return .error .nulInName
  match ← attempt (IO.FS.Handle.mk path .append) with
  | .ok handle =>
    o.files.modify ((path, handle) :: ·)
    return .ok ()
  | .error cause => return .error cause

def writeLine (o : Opened) (d : Log.Destination) (line : String) : IO Unit := do
  match d with
  | .stdout => IO.println line
  | .stderr => IO.eprintln line
  | .file path =>
    if let some handle := (← o.files.get).lookup path then
      handle.putStrLn line
      handle.flush

/-! ## Sockets -/

/-- How many clients may wait to be accepted. -/
def backlog : UInt32 := 1024

def bindEndpoint (o : Opened) (p : Protocol) (e : Endpoint) : IO (Except IoError Endpoint) :=
  attempt do
    let (bound, socket) ← match p with
      | .tcp => do
        let socket ← TCP.Socket.Server.mk
        socket.bind (socketAddress e)
        socket.listen backlog
        pure (ofSocketAddress (← socket.getSockName), BoundSocket.tcp socket)
      | .udp => do
        let socket ← UDP.Socket.mk
        socket.bind (socketAddress e)
        pure (ofSocketAddress (← socket.getSockName), BoundSocket.udp socket)
    o.sockets.modify ((p, bound, socket) :: ·)
    return bound

def bind (o : Opened) (p : Protocol) (listen : String) : IO (Except IoError Endpoint) := do
  match ← (resolve listen).block with
  | .ok endpoints => firstOf (bindEndpoint o p) .noAddress endpoints
  | .error cause => return .error cause

def socketOf (o : Opened) (p : Protocol) (e : Endpoint) : IO (Option BoundSocket) := do
  return ((← o.sockets.get).find? fun (q, f, _) => q = p ∧ f = e).map (·.2.2)

/-! ## Serving -/

/-- Serves a route until its relay ends; its value is what that means to the task. -/
def serveRoute (o : Opened) (r : RouteRelay) (report : Event → IO Unit) :
    Async (Nat → Supervisor.Action) := do
  match r with
  | .tcp relay =>
    if let some (.tcp socket) ← socketOf o .tcp relay.listen then
      TcpRoute.run socket relay report
    return (.ended · (.ok ()))
  | .udp relay =>
    let some (.udp socket) ← socketOf o .udp relay.listen | return (.ended · (.ok ()))
    let outcome ← UdpRoute.run socket relay report
    return (.ended · outcome)
  | .udpEnded .. => return (.panicked · "task panicked")

/-- The task of a route ends, and the supervisor joins it. -/
def finish (i : Nat) (ending : Nat → Supervisor.Action) (s : Supervisor) : Supervisor :=
  let k := s.tasks.findIdx (·.route = i)
  let s := (s.act (ending k)).getD s
  (s.act (.join k)).getD s

def interrupt : Async Ending := do
  match ← attempt (do (← Signal.Waiter.mk .sigint false).wait) with
  | .ok signal =>
    discard <| await signal
    return .interrupted
  | .error cause => return .noSignal cause

/-- Serves the route of a task, and marks it when its relay has ended. -/
def serveTask (o : Opened) (record : List Log.Record → IO Unit) (state : IO.Ref Supervisor)
    (t : Task) : Async Unit := do
  match (← state.get).entries[t.route]? with
  | some ⟨route, _, some relay⟩ =>
    let report (e : Event) : IO Unit := record [.ofEvent (some route.text) e]
    let ending ← serveRoute o relay report
    let logged ← state.modifyGet fun s =>
      let next := finish t.route ending s
      (next.log.drop s.log.length, next)
    logged.forM fun (_, e) => report e
  | _ => return

def serve (o : Opened) (record : List Log.Record → IO Unit) (s : Supervisor) :
    IO (Supervisor × Ending) := do
  let state ← IO.mkRef s
  let serving : Async Ending := do
    let tasks ← s.tasks.mapM fun t => (async (serveTask o record state t) : Async (AsyncTask Unit))
    let ended : Async Unit := tasks.forM fun task => await task
    let stopped : Async Ending := do
      ended
      return .routesStopped
    Async.race stopped do
      match ← interrupt with
      | .noSignal cause => do
        ended
        return .noSignal cause
      | ending => return ending
  let ending ← serving.block
  return (← state.get, ending)

/-! ## The machine -/

/-- The time of day as log lines show it. -/
def timeOfDay : IO (Option String) := do
  let time := Std.Time.DateTime.ofTimestampWithZone (← Std.Time.Timestamp.now) .UTC
  return some (time.format "uuuu-MM-dd'T'HH:mm:ss.SSSSSS'Z'")

/-- The machine that a run of this process has. -/
def machine : IO (Machine IO) := do
  let o : Opened := ⟨← IO.mkRef [], ← IO.mkRef []⟩
  let base : Machine IO := {
    cores := (← System.getCPUInfo).size.toUInt64
    logFilter := ← IO.getEnv "RUST_LOG"
    readFile
    openFile := openFile o
    installLog := return .ok ()
    writeLine := writeLine o
    bind := bind o
    now
    timeOfDay
    serve := fun _ s => return (s, .interrupted) }
  return { base with serve := fun log s => serve o (base.record log) s }

end SocketRelay.Live
