import SocketRelay.Live.Host
import SocketRelay.Udp.Tasks
import Std.Sync.CancellationToken

/-!
# UDP routes on real sockets

The read loop of a `Udp.Relay`, its manager and the tasks of its sessions. The
manager is three loops, for what comes to it in three ways.
-/

namespace SocketRelay.Live

open SocketRelay.Net SocketRelay.Udp
open Std.Async

structure UdpRoute where
  listener : UDP.Socket
  host : Host Udp.Relay

namespace UdpRoute

/-! ## Sessions -/

/-- The socket of a session, and what tells its replier that the session is removed. -/
structure Line where
  id : UInt64
  socket : UDP.Socket
  removal : Std.CancellationToken

/-- The forwarder of a session writes the next datagram. -/
def forward (u : UdpRoute) (l : Line) : Async Bool := do
  let step (input : ForwarderInput) (now : Instant) (r : Udp.Relay) : Option Udp.Relay :=
    r.actTask now l.id (.forwarder input)
  let some r ← u.host.actSoon (fun now r => step .take now r <|> step .closed now r)
      (fun r => (r.session? l.id).any (·.forwarder.isAlive))
    | return false
  let some { forwarder := { phase := .writing p, .. }, .. } := r.session? l.id | return false
  let wrote : ForwarderInput ←
    match ← within r.engine.settings.writeTimeout (l.socket.send ⟨p.toArray⟩) with
    | .ok (some ()) => pure .written
    | .ok none => pure .writeDeadline
    | .error cause => pure (.writeFailed cause)
  return (← u.host.act (step wrote)).isSome

/-- What a replier hears first. -/
def hear (l : Line) (s : Settings) : Async Engine.TaskInput := do
  let heard ← attemptAsync do
    Selectable.one #[
      .case l.removal.selector fun _ => return .shutdown,
      .case (l.socket.recvSelector s.maxDatagramSize) fun (bytes, _) =>
        return .heard bytes.toList,
      .case (← Selector.sleep (timerMillis s.readTimeout)) fun _ => return .readDeadline]
  match heard with
  | .ok input => return input
  | .error cause => return .readFailed cause

/-- The replier of a session waits for something and deals with it. -/
def reply (u : UdpRoute) (l : Line) : Async Bool := do
  let heard ← hear l (← u.host.state.get).engine.settings
  let some r ← u.host.act fun now r => r.actTask now l.id heard | return false
  let some { client, replier, .. } := r.session? l.id | return false
  match replier.phase with
  | .responding p =>
    let answered : Engine.TaskInput ←
      match ← attemptAsync (u.listener.send ⟨p.toArray⟩ (some (socketAddress client))) with
      | .ok () => pure .responded
      | .error cause => pure (.respondFailed cause)
    return (← u.host.act fun now r => r.actTask now l.id answered).isSome
  | _ => return replier.isAlive

/-- Starts the tasks of a session that was just created. -/
def startTasks (u : UdpRoute) (id : UInt64) (socket : UDP.Socket) : Async Unit := do
  let l : Line := ⟨id, socket, ← Std.CancellationToken.new⟩
  background (repeatedly (u.forward l))
  background (repeatedly (u.reply l))
  background do
    u.host.waitUntil fun r => !r.engine.lists id
    l.removal.cancel

/-! ## The manager -/

/-- Opens a socket towards a remote. -/
def dial (remote : Endpoint) : IO (Except IoError UDP.Socket) :=
  attempt do
    let socket ← UDP.Socket.mk
    let any : IpAddress := match remote with
      | .v4 .. => .v4 .unspecified
      | .v6 .. => .v6 .unspecified
    socket.bind (socketAddress (.of any 0))
    socket.connect (socketAddress remote)
    return socket

/-- What the outside answers if a client opens a session, with the socket. -/
def opening (e : Engine) (client : Endpoint) : Async (Opening × Option UDP.Socket) := do
  let unused : Opening := ⟨.error .nameNotKnown, .error .noAddress⟩
  if (e.session? client.text).isSome then return (unused, none)
  let found ← match e.resolved with
    | some remote => pure (.ok [remote])
    | none => resolve e.target
  match found with
  | .error _ | .ok [] => return ({ unused with lookup := found }, none)
  | .ok (remote :: _) =>
    match ← dial remote with
    | .ok socket => return (⟨found, .ok ()⟩, some socket)
    | .error cause => return (⟨found, .error cause⟩, none)

/-- Changes the relay as soon as its manager can do that, as long as there is a manager. -/
def manage (u : UdpRoute) (a : Udp.Relay → Udp.Relay.Action) : Async (Option Udp.Relay) :=
  u.host.actSoon (fun now r => r.act now (a r)) (·.engine.running)

/-- The manager deals with the next datagram. -/
def handle (u : UdpRoute) : Async Bool := do
  let some r ← u.manage fun _ => .take | return false
  let some d := r.inHand | return false
  let (o, socket) ← opening r.engine d.source
  let some r ← u.manage fun _ => .finish o | return false
  if let (some socket, some s) := (socket, r.engine.session? d.source.text) then
    u.startTasks s.id socket
  return true

/-- The manager takes the next report. -/
def takeReport (u : UdpRoute) : Async Bool :=
  return (← u.manage fun _ => .engine .report).isSome

/-- The manager removes idle sessions, after some time. -/
def sweep (u : UdpRoute) : Async Bool := do
  sleep (timerMillis (← u.host.state.get).engine.settings.sweepInterval)
  return (← u.manage fun r => .engine (.sweep (r.engine.table.map (·.1)))).isSome

/-! ## The read loop -/

/-- Reads a datagram, and hands it over. -/
def read (u : UdpRoute) : Async Bool := do
  let size := (← u.host.state.get).engine.settings.maxDatagramSize
  match ← attemptAsync (u.listener.recv size) with
  | .ok (bytes, some source) =>
    let d : Datagram := ⟨ofSocketAddress source, bytes.toList⟩
    let some r ← u.host.act fun now r => r.act now (.receive d) | return false
    if r.held.isSome then discard <| u.host.actSoon fun now r => r.act now .handOver
  | .ok (_, none) => pure ()
  | .error cause => discard <| u.host.act fun now r => r.act now (.readFailed cause)
  return (← u.host.state.get).result.isNone

/-- Serves a relay that was just started; its value is how the relay ended. -/
def run (listener : UDP.Socket) (r : Udp.Relay) (report : Event → IO Unit) :
    Async (Except String Unit) := do
  let u : UdpRoute := ⟨listener, ← Host.start r (·.engine.log) Udp.Relay.forget report⟩
  background (repeatedly u.handle)
  background (repeatedly u.takeReport)
  background (repeatedly u.sweep)
  repeatedly u.read
  match (← u.host.state.get).result with
  | some e => return .error e.message
  | none => return .ok ()

end UdpRoute

end SocketRelay.Live
