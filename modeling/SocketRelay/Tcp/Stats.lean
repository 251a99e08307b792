/-!
# Counters of a TCP relay
-/

namespace SocketRelay.Tcp

/-- Counters that wrap in sixty-four bits. -/
structure Stats where
  accepted : UInt64 := 0
  /-- Connections being relayed. -/
  active : UInt64 := 0
  /-- Connections whose two directions have ended. -/
  completed : UInt64 := 0
  dialFailures : UInt64 := 0
  acceptErrors : UInt64 := 0
  /-- Bytes copied from clients to the remote. -/
  bytesUp : UInt64 := 0
  /-- Bytes copied from the remote to clients. -/
  bytesDown : UInt64 := 0
  deriving DecidableEq, Repr, Inhabited

end SocketRelay.Tcp
