import SocketRelay.Net.Resolve
import SocketRelay.Time
import Std.Async.DNS
import Std.Async.System
import Std.Async.TCP
import Std.Async.Timer
import Std.Async.UDP

/-!
# Sockets and clocks of the operating system

Endpoints, errors and instants as the operating system has them.
-/

namespace SocketRelay.Live

open SocketRelay.Net
open Std.Async

/-! ## Addresses -/

def addressV4 (ip : IPv4) : Std.Net.IPv4Addr := ⟨#v[ip.a, ip.b, ip.c, ip.d]⟩

def addressV6 (ip : IPv6) : Std.Net.IPv6Addr := ⟨⟨ip.groups.toArray, by simp [ip.length_groups]⟩⟩

def socketAddress : Endpoint → Std.Net.SocketAddress
  | .v4 ip port => .v4 ⟨addressV4 ip, port⟩
  | .v6 ip port _ _ => .v6 ⟨addressV6 ip, port⟩

def ofAddressV4 (a : Std.Net.IPv4Addr) : IPv4 :=
  ⟨a.octets[0], a.octets[1], a.octets[2], a.octets[3]⟩

def ofAddressV6 (a : Std.Net.IPv6Addr) : IPv6 := ⟨a.segments.toList, by simp⟩

def ofSocketAddress : Std.Net.SocketAddress → Endpoint
  | .v4 a => .v4 (ofAddressV4 a.addr) a.port
  | .v6 a => .v6 (ofAddressV6 a.addr) a.port 0 0

def ofIpAddress : Std.Net.IPAddr → IpAddress
  | .v4 a => .v4 (ofAddressV4 a)
  | .v6 a => .v6 (ofAddressV6 a)

/-! ## Errors -/

/-- The number of a failed call, if it has one. -/
def errorNumber? : IO.Error → Option UInt32
  | .otherError n _ | .resourceBusy n _ | .resourceVanished n _ | .unsupportedOperation n _
  | .hardwareFault n _ | .unsatisfiedConstraints n _ | .illegalOperation n _
  | .protocolError n _ | .timeExpired n _ => some n
  | .interrupted _ n _ | .noFileOrDirectory _ n _ => some n
  | .alreadyExists _ n _ | .invalidArgument _ n _ | .permissionDenied _ n _
  | .resourceExhausted _ n _ | .inappropriateType _ n _ | .noSuchThing _ n _ => some n
  | .unexpectedEof | .userError _ => none

/-- The error of a failed call. Some calls negate its number. -/
def ioError (e : IO.Error) : IoError :=
  match errorNumber? e with
  | some n => .os n.toInt32.toInt.natAbs
  | none => .other (toString e)

/-- The outcome of a call that may fail. -/
def attempt {α : Type} (call : IO α) : IO (Except IoError α) := do
  match ← call.toBaseIO with
  | .ok a => return .ok a
  | .error e => return .error (ioError e)

/-- The outcome of a call that takes its time and may fail. -/
def attemptAsync {α : Type} (call : Async α) : Async (Except IoError α) := do
  try
    return .ok (← call)
  catch e => return .error (ioError e)

/-! ## Names -/

/-- The addresses of a host name. -/
def lookup (host : String) : Async (Except IoError (List IpAddress)) := do
  match ← attemptAsync (DNS.getAddrInfo host "") with
  | .ok ips =>
    return if ips.isEmpty then .error .nameNotKnown else .ok (ips.toList.map ofIpAddress)
  | .error _ => return .error .nameNotKnown

/-- The endpoints that a text stands for. -/
def resolve (text : String) : Async (Except IoError (List Endpoint)) := do
  let found ← match AddressText.parse text with
    | .ok (.named host _) => lookup host
    | _ => pure (.error .nameNotKnown)
  return Net.resolve { lookup := fun _ => found } text

/-! ## Clocks -/

/-- The instant after this many nanoseconds. -/
def instantOf (nanos : Nat) : Instant :=
  if h : nanos < UInt64.size * 1000000 then ⟨nanos, h⟩ else .zero

def now : BaseIO Instant := return instantOf (← IO.monoNanosNow)

/-- The milliseconds of a duration, rounded up, as far as a timer can count. -/
def timerMillis (d : Duration) : Std.Time.Millisecond.Offset :=
  .ofNat (min ((d.nanos + 999999) / 1000000) 0x10000000000)

/-- What a call gives, if it gives something in time. -/
def within {α : Type} (d : Duration) (call : Async α) : Async (Except IoError (Option α)) :=
  attemptAsync (Async.race (some <$> call) do
    sleep (timerMillis d)
    return none)

end SocketRelay.Live
