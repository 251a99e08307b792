import SocketRelay.Tcp.Relay

/-!
# Requests of a relay that runs

The streams of a relay are values that say beforehand what they will give. A
socket does not: what it gives is known once a copy has asked for it. `Copy.request?`
is what a copy asks for next, and with the answer the copy goes on as if its
streams had been about to give just that (`Relay.answer`).

Workers and pumps are known by the numbers of their clients, since their places
change. What a relay has no use for any more is dropped by `Relay.forget`.
-/

namespace SocketRelay.Tcp

/-- What a copy asks of one of its streams. -/
inductive Request where
  | read (size : Nat)
  | write (bs : Bytes)
  | shutdown
  deriving DecidableEq, Repr

inductive Answer where
  | read (result : ReadResult)
  | write (answer : WriteAnswer)
  | shutdown
  deriving DecidableEq, Repr

def Copy.request? (c : Copy) : Option Request :=
  match c.phase with
  | .reading => some (.read c.bufferSize)
  | .writing left _ => some (.write left)
  | .ending _ => some .shutdown
  | .done _ => none

/-- The ends of a connection of which nothing is known yet. -/
def Ends.unknown : Ends where
  clientSource := { pieces := [] }
  remoteSource := { pieces := [] }

namespace Transfer

/-- The transfer with streams that are about to give this answer. -/
def expecting (t : Transfer) : Answer → Transfer
  | .read (.bytes bs) => { t with source := { pieces := [bs] } }
  | .read .ended => { t with source := { pieces := [] } }
  | .read (.failed cause) => { t with source := { pieces := [], failure := some cause } }
  | .write answer => { t with sink.answers := [answer] }
  | .shutdown => t

/-- The transfer without what its sink took. -/
def forget (t : Transfer) : Transfer := { t with sink.taken := [] }

end Transfer

namespace Relay

/-- The place of the worker that has this client. -/
def workerOf (r : Relay) (number : Nat) : Nat := r.workers.findIdx (·.client.number = number)

/-- The place of the pump that has this client. -/
def pumpOf (r : Relay) (number : Nat) : Nat := r.pumps.findIdx (·.client.number = number)

/-- What one direction of a client's connection asks for. -/
def request? (r : Relay) (number : Nat) (d : Direction) : Option Request := do
  let p ← r.pumps[r.pumpOf number]?
  (p.connection.transfer d).copy.request?

/-- One direction of a client's connection goes on with the answer to its request. -/
def answer (r : Relay) (number : Nat) (d : Direction) (a : Answer) : Option Relay := do
  let i := r.pumpOf number
  let p ← r.pumps[i]?
  let connection := p.connection.setTransfer d ((p.connection.transfer d).expecting a)
  { r with pumps := r.pumps.set i { p with connection } }.act (.copy i d .call)

/-- A relay without its history. -/
def forget (r : Relay) : Relay :=
  { r with
    log := []
    pumps := (r.pumps.filter (·.stage ≠ .closed)).map fun p =>
      { p with connection := ⟨p.connection.up.forget, p.connection.down.forget⟩ } }

end Relay

end SocketRelay.Tcp
