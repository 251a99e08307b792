import SocketRelay.Net.IoError

/-!
# Errors of a TCP relay
-/

namespace SocketRelay.Tcp

open Net

inductive Error where
  | bind (address : String) (cause : IoError)
  /-- No dial worker is left to take accepted clients. -/
  | workersStopped
  /-- A copy buffer of no bytes, which would read as the end of the stream. -/
  | zeroBufferSize
  deriving DecidableEq, Repr

namespace Error

def message : Error → String
  | bind address cause => s!"failed to bind to {address}: {cause}"
  | workersStopped => "all TCP workers have stopped"
  | zeroBufferSize => "invalid setting tcp.buffer_size: must be greater than zero"

/-- Whether the error takes down the route rather than one connection. -/
def isFatal : Error → Bool
  | bind .. | workersStopped | zeroBufferSize => true

end Error

end SocketRelay.Tcp
