import SocketRelay.Time
import SocketRelay.Udp.Error

/-!
# Settings of UDP relays

Durations are whole seconds in a configuration; an override, which only a
program can set, replaces one by any length of time.
-/

namespace SocketRelay.Udp

structure Overrides where
  idleTimeout : Option Duration := none
  sweepInterval : Option Duration := none
  writeTimeout : Option Duration := none
  readTimeout : Option Duration := none
  deriving DecidableEq, Repr, Inhabited

structure Settings where
  /-- A session is removed after this much silence of its client. -/
  idleTimeoutSecs : UInt64 := 60
  /-- How often idle sessions are looked for. -/
  sweepIntervalSecs : UInt64 := 30
  /-- Deadline of one write to the remote. -/
  writeTimeoutSecs : UInt64 := 2
  /-- Deadline of one read from the remote. -/
  readTimeoutSecs : UInt64 := 5
  /-- Datagrams that may wait in a session. -/
  outboundQueue : UInt64 := 32
  /-- Datagrams that may wait for the manager, per core. -/
  ingestPerCore : UInt64 := 16
  /-- Failure reports that may wait for the manager. -/
  eventQueue : UInt64 := 128
  /-- Bytes of a receive buffer. -/
  maxDatagramSize : UInt64 := 65535
  overrides : Overrides := {}
  deriving DecidableEq, Repr, Inhabited

namespace Settings

def idleTimeout (s : Settings) : Duration :=
  s.overrides.idleTimeout.getD (.ofSecs s.idleTimeoutSecs)

def sweepInterval (s : Settings) : Duration :=
  s.overrides.sweepInterval.getD (.ofSecs s.sweepIntervalSecs)

def writeTimeout (s : Settings) : Duration :=
  s.overrides.writeTimeout.getD (.ofSecs s.writeTimeoutSecs)

def readTimeout (s : Settings) : Duration :=
  s.overrides.readTimeout.getD (.ofSecs s.readTimeoutSecs)

/-- How many datagrams may wait for the manager on a machine with `cores` cores, in
sixty-four-bit arithmetic. -/
def ingestCapacity (s : Settings) (cores : UInt64) : UInt64 :=
  max (cores * s.ingestPerCore) 1

/-- Whether a setting is zero in effect. -/
def isZero (s : Settings) : Setting → Bool
  | .idleTimeout => s.idleTimeout.isZero
  | .sweepInterval => s.sweepInterval.isZero
  | .writeTimeout => s.writeTimeout.isZero
  | .readTimeout => s.readTimeout.isZero
  | .outboundQueue => s.outboundQueue == 0
  | .ingestPerCore => s.ingestPerCore == 0
  | .eventQueue => s.eventQueue == 0
  | .maxDatagramSize => s.maxDatagramSize == 0

/-- Refuses settings that a relay cannot run with, for the first that is zero. -/
def check (s : Settings) : Except Error Unit :=
  match Setting.all.find? s.isZero with
  | some setting => .error (.zero setting)
  | none => .ok ()

end Settings

end SocketRelay.Udp
