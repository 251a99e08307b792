/-!
# Counters of a UDP relay
-/

namespace SocketRelay.Udp

/-- Counters that wrap in sixty-four bits. -/
structure Stats where
  /-- Datagrams read from the listener. -/
  received : UInt64 := 0
  /-- Datagrams written to a remote. -/
  forwarded : UInt64 := 0
  /-- Replies written to clients. -/
  replied : UInt64 := 0
  /-- Datagrams that found the queue of their session full or closed. -/
  dropped : UInt64 := 0
  /-- Sessions created. -/
  created : UInt64 := 0
  /-- Sessions removed. -/
  evicted : UInt64 := 0
  /-- Times the read loop began to wait for the manager. -/
  stalls : UInt64 := 0
  /-- Failure reports that found their queue full. -/
  overflows : UInt64 := 0
  /-- Sessions that could not be opened. -/
  dialFailures : UInt64 := 0
  /-- Read errors of the listener. -/
  readErrors : UInt64 := 0
  deriving DecidableEq, Repr, Inhabited

end SocketRelay.Udp
