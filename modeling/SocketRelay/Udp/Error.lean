import SocketRelay.Net.IoError

/-!
# Errors of a UDP relay
-/

namespace SocketRelay.Udp

open Net

/-- A setting that must not be zero. -/
inductive Setting where
  | idleTimeout
  | sweepInterval
  | writeTimeout
  | readTimeout
  | outboundQueue
  | ingestPerCore
  | eventQueue
  | maxDatagramSize
  deriving DecidableEq, Repr

namespace Setting

def durations : List Setting := [idleTimeout, sweepInterval, writeTimeout, readTimeout]

def capacities : List Setting := [outboundQueue, ingestPerCore, eventQueue, maxDatagramSize]

/-- The durations, then the capacities. -/
def all : List Setting := durations ++ capacities

/-- Where the setting stands in a configuration. -/
def field : Setting → String
  | idleTimeout => "udp.idle_timeout_secs"
  | sweepInterval => "udp.sweep_interval_secs"
  | writeTimeout => "udp.write_timeout_secs"
  | readTimeout => "udp.read_timeout_secs"
  | outboundQueue => "udp.outbound_queue"
  | ingestPerCore => "udp.ingest_per_core"
  | eventQueue => "udp.event_queue"
  | maxDatagramSize => "udp.max_datagram_size"

end Setting

inductive Error where
  | bind (address : String) (cause : IoError)
  | resolve (target : String) (cause : IoError)
  | noAddress (target : String)
  | dial (target : String) (cause : IoError)
  /-- The task that owns the session table is gone. -/
  | managerStopped
  | zero (setting : Setting)
  deriving DecidableEq, Repr

namespace Error

def message : Error → String
  | bind address cause => s!"failed to bind to {address}: {cause}"
  | resolve target cause => s!"failed to resolve {target}: {cause}"
  | noAddress target => s!"{target} resolved to no addresses"
  | dial target cause => s!"failed to dial {target}: {cause}"
  | managerStopped => "UDP session manager has stopped"
  | zero setting => s!"invalid setting {setting.field}: must be greater than zero"

/-- Whether the error takes down the route rather than one session. -/
def isFatal : Error → Bool
  | bind .. | managerStopped | zero _ => true
  | resolve .. | noAddress _ | dial .. => false

end Error

end SocketRelay.Udp
