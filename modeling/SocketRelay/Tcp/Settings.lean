import SocketRelay.Tcp.Error

/-!
# Settings of TCP relays
-/

namespace SocketRelay.Tcp

structure Settings where
  /-- Dial workers of a route; zero stands for one per core. -/
  workers : UInt64 := 0
  /-- Bytes of the copy buffer of one direction. -/
  bufferSize : UInt64 := 32768
  /-- Whether small segments are sent at once. -/
  nodelay : Bool := true
  deriving DecidableEq, Repr, Inhabited

namespace Settings

/-- How many dial workers a machine with `cores` cores runs. -/
def workerCount (s : Settings) (cores : UInt64) : UInt64 :=
  if s.workers = 0 then cores else s.workers

/-- Refuses settings that a relay cannot run with. -/
def check (s : Settings) : Except Error Unit :=
  if s.bufferSize = 0 then .error .zeroBufferSize else .ok ()

end Settings

end SocketRelay.Tcp
