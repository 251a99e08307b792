import SocketRelay.Udp.Relay

/-!
# Tasks of a relay that runs

A relay that runs knows its sessions by their numbers, since a session changes its
place when it is removed. What the relay has no use for any more is dropped by
`Relay.forget`: what was logged, the payloads that went by and the sessions whose
tasks have ended.
-/

namespace SocketRelay.Udp

namespace Session

/-- A session without the payloads that went by. -/
def forget (s : Session) : Session :=
  { s with
    forwarder.accepted := []
    forwarder.sent := []
    replier.heard := []
    replier.answered := [] }

/-- Whether a task of the session goes on. -/
def isBusy (s : Session) : Bool := s.forwarder.isAlive || s.replier.isAlive

end Session

namespace Engine

/-- An engine without its history. -/
def forget (e : Engine) : Engine :=
  { e with
    log := []
    delivered := []
    handled := []
    refused := []
    dropped := []
    raised := []
    table := e.table.map fun (key, s) => (key, s.forget)
    removed := (e.removed.filter Session.isBusy).map Session.forget }

/-- Whether the session with this number is in the table. -/
def lists (e : Engine) (id : UInt64) : Bool := e.table.any (·.2.id = id)

/-- The session with this number, and where it is. -/
def locate? (e : Engine) (id : UInt64) : Option (Place × Session) :=
  match e.table.find? (·.2.id = id) with
  | some (key, s) => some (.live key, s)
  | none => e.removed.zipIdx.findSome? fun (s, i) =>
    if s.id = id then some (.removed i, s) else none

end Engine

namespace Relay

/-- A relay without its history. -/
def forget (r : Relay) : Relay := { r with received := [], engine := r.engine.forget }

/-- The session with this number. -/
def session? (r : Relay) (id : UInt64) : Option Session := (r.engine.locate? id).map (·.2)

/-- A step of a task of the session with this number, if it is possible. -/
def actTask (r : Relay) (now : Instant) (id : UInt64) (input : Engine.TaskInput) :
    Option Relay := do
  let (place, _) ← r.engine.locate? id
  r.act now (.engine (.task place input))

end Relay

end SocketRelay.Udp
