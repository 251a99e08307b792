import SocketRelay.Log.Subscriber
import SocketRelay.Net.Host
import SocketRelay.Storage
import SocketRelay.Supervisor

/-!
# Machines

What a run of the program asks of the machine it runs on. A `World` is a machine
as a value: it has a host and a storage, keeps what is written, and interrupts a
run as soon as it serves.
-/

namespace SocketRelay

open Net

/-- Why a run serves no longer. -/
inductive Ending where
  | interrupted
  /-- All relays have ended. -/
  | routesStopped
  /-- No interrupt can be waited for. All relays have ended since. -/
  | noSignal (cause : IoError)
  deriving Inhabited

/-- What a run asks of its machine. -/
structure Machine (m : Type → Type) where
  cores : UInt64
  /-- The log filter of the environment. -/
  logFilter : Option String
  readFile (path : String) : m Config.FileContent
  /-- Opens a file to write at its end. -/
  openFile (path : String) : m (Except IoError Unit)
  /-- Makes a log that of the process. -/
  installLog : m (Except String Unit)
  writeLine (destination : Log.Destination) (line : String) : m Unit
  bind (protocol : Protocol) (listen : String) : m (Except IoError Endpoint)
  now : m Instant
  /-- The time of day as log lines show it, if there is a clock. -/
  timeOfDay : m (Option String)
  /-- Serves until there is a reason not to. -/
  serve (log : Log.Subscriber) (s : Supervisor) : m (Supervisor × Ending)

namespace Machine

variable {m : Type → Type} [Monad m]

def writeLines (machine : Machine m) (d : Log.Destination) (lines : List String) : m Unit :=
  lines.forM (machine.writeLine d)

/-- Logs records, as far as they pass the filter. -/
def record (machine : Machine m) (log : Log.Subscriber) (rs : List Log.Record) : m Unit := do
  let time ← machine.timeOfDay
  machine.writeLines log.destination (rs.flatMap (log.lines time))

end Machine

/-- A machine as a value. -/
structure World where
  host : Host
  storage : Storage
  clock : Instant := .zero
  written : List (Log.Destination × String) := []

namespace World

/-- The lines written to a destination. -/
def linesOf (w : World) (d : Log.Destination) : List String :=
  (w.written.filter (·.1 = d)).map (·.2)

def bind (w : World) (p : Protocol) (listen : String) : Except IoError Endpoint × World :=
  match w.host.bind p listen with
  | .ok (e, host) => (.ok e, { w with host })
  | .error cause => (.error cause, w)

def openFile (w : World) (path : String) : Except IoError Unit × World :=
  match w.storage.openLog path with
  | .ok storage => (.ok (), { w with storage })
  | .error cause => (.error cause, w)

/-- A machine that is a world. -/
def machine (cores : UInt64) (logFilter : Option String) : Machine (StateM World) where
  cores
  logFilter
  readFile path := return (← get).storage.content path
  openFile path := modifyGet (·.openFile path)
  installLog := return .ok ()
  writeLine d line := modify fun w => { w with written := w.written ++ [(d, line)] }
  bind p listen := modifyGet (·.bind p listen)
  now := return (← get).clock
  timeOfDay := return none
  serve _ s := return (s, .interrupted)

end World

end SocketRelay
