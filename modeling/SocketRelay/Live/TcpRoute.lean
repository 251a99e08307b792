import SocketRelay.Live.Host
import SocketRelay.Tcp.Requests

/-!
# TCP routes on real sockets

The accept loop, the workers and the pumps of a `Tcp.Relay`. Every client has a
task of its own, which dials once a worker is free, then asks the sockets for
what the two copies want, and in the end settles the accounts of the connection.
-/

namespace SocketRelay.Live

open SocketRelay.Net SocketRelay.Tcp
open Std.Async

structure TcpRoute where
  listener : TCP.Socket.Server
  host : Host Tcp.Relay

namespace TcpRoute

/-- Connects to an endpoint. -/
def connect (e : Endpoint) : Async (Except IoError TCP.Socket.Client) :=
  attemptAsync do
    let socket ← TCP.Socket.Client.mk
    socket.connect (socketAddress e)
    return socket

def dial (target : String) : Async (Except IoError TCP.Socket.Client) := do
  match ← resolve target with
  | .ok endpoints => firstOf connect .noAddress endpoints
  | .error cause => return .error cause

/-- What the sockets of a copy answer to its request. -/
def ask (source sink : TCP.Socket.Client) : Request → Async Answer
  | .read size => do
    match ← attemptAsync (source.recv? size.toUInt64) with
    | .ok (some bytes) => return .read (.bytes bytes.toList)
    | .ok none => return .read .ended
    | .error cause => return .read (.failed cause)
  | .write bs => do
    match ← attemptAsync (sink.send ⟨bs.toArray⟩) with
    | .ok () => return .write (.accept bs.length)
    | .error cause => return .write (.failed cause)
  | .shutdown => do
    discard <| attemptAsync sink.shutdown
    return .shutdown

/-- One direction of a client's connection goes on. -/
def copy (t : TcpRoute) (number : Nat) (d : Direction) (source sink : TCP.Socket.Client) :
    Async Bool := do
  let some request := (← t.host.state.get).request? number d | return false
  let a ← ask source sink request
  return (← t.host.act fun _ r => r.answer number d a).isSome

/-- The pump of a client goes on to its next stage. -/
def settle (t : TcpRoute) (number : Nat) : Async Bool :=
  return (← t.host.act fun _ r => r.act (.settle (r.pumpOf number))).isSome

/-- The dial of a client's worker ends. -/
def endDial (t : TcpRoute) (number : Nat) (result : Except IoError Ends) : IO Unit := do
  discard <| t.host.act fun _ r => r.act (.dialed (r.workerOf number) result)
  discard <| t.host.act fun _ r => r.act (.announce (r.workerOf number))

/-- What is done for a client that a worker has taken. -/
def work (t : TcpRoute) (number : Nat) (client : TCP.Socket.Client) : Async Unit := do
  let r ← t.host.state.get
  match ← dial r.target with
  | .error cause => t.endDial number (.error cause)
  | .ok remote =>
    if r.settings.nodelay then
      discard <| attempt do
        client.noDelay
        remote.noDelay
    t.endDial number (.ok .unknown)
    discard <| Async.concurrently (repeatedly (t.copy number .up client remote))
      (repeatedly (t.copy number .down remote client))
    repeatedly (t.settle number)

/-- Accepts a client, and hands it to a worker. -/
def accept (t : TcpRoute) : Async Unit := do
  let accepted ← attemptAsync do
    let client ← t.listener.accept
    return (client, ofSocketAddress (← client.getPeerName))
  match accepted with
  | .error cause =>
    discard <| t.host.act fun _ r => r.act (.acceptFailed cause)
    sleep (.ofNat 10)
  | .ok (client, peer) =>
    let some r ← t.host.act fun _ r => r.act (.accept peer) | return
    let some { number, .. } := r.held | return
    discard <| t.host.actSoon fun _ r => r.act .handOff
    background (t.work number client)

/-- Serves a relay that was just started. -/
def run (listener : TCP.Socket.Server) (r : Tcp.Relay) (report : Event → IO Unit) :
    Async Unit := do
  let t : TcpRoute := ⟨listener, ← Host.start r Tcp.Relay.events Tcp.Relay.forget report⟩
  repeatedly do
    t.accept
    return true

end TcpRoute

end SocketRelay.Live
