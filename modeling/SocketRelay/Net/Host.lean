import SocketRelay.Net.Resolve
import SocketRelay.Route

/-!
# Hosts

The machine a relay runs on: the names it knows, the endpoints that are taken
and what can be reached. `Host.isolated` is a machine without a network.
-/

namespace SocketRelay.Net

structure Host where
  /-- The addresses of host names. -/
  names : List (String × List IpAddress) := []
  /-- The numbers of the network interfaces by name. -/
  interfaces : List (String × UInt32) := []
  /-- The endpoints that are bound, with their protocol. -/
  bound : List (Protocol × Endpoint) := []
  /-- The next port to give to a listener that asks for any. -/
  freePort : Nat := 32768
  /-- What becomes of an attempt to bind a socket to the address of an endpoint. -/
  allows : Endpoint → Except IoError Unit
  /-- What becomes of an attempt to send to an endpoint. -/
  reach : Protocol → Endpoint → Except IoError Unit

namespace Host

def lookup (h : Host) (host : String) : Except IoError (List IpAddress) :=
  match h.names.lookup host with
  | some ips => .ok ips
  | none => .error .nameNotKnown

def resolve (h : Host) (s : String) : Except IoError (List Endpoint) :=
  Net.resolve { lookup := h.lookup, interfaces := h.interfaces } s

/-- Whether a socket bound to `a` takes what is sent to `b`, or the other way round. -/
def overlap (a b : Endpoint) : Bool :=
  let x := a.ip.unmapped
  let y := b.ip.unmapped
  a.port == b.port &&
    (x == y || (x.isV4 == y.isV4 && (x.isUnspecified || y.isUnspecified)) ||
      x == .v6 .unspecified || y == .v6 .unspecified)

/-- Whether this is the IPv6 address of a group, to which no stream can be bound. -/
def isGroup : Endpoint → Bool
  | .v4 .. => false
  | .v6 ip .. => ip.isMulticast

/-- Binds a listener to an endpoint. Port 0 asks for any free port; ports below 1024 are
reserved. -/
def bindEndpoint (h : Host) (p : Protocol) (e : Endpoint) : Except IoError (Endpoint × Host) := do
  if p = .tcp ∧ isGroup e then throw .invalidArgument
  if e.port ≠ 0 ∧ e.port < 1024 then throw .permissionDenied
  h.allows e
  let e := e.essential
  if e.port = 0 then
    let e := e.withPort h.freePort.toUInt16
    return (e, { h with bound := (p, e) :: h.bound, freePort := h.freePort + 1 })
  if h.bound.any fun (q, f) => q == p && overlap e f then throw .addressInUse
  return (e, { h with bound := (p, e) :: h.bound })

/-- Binds a listener to the first endpoint of a text that can be bound. -/
def bind (h : Host) (p : Protocol) (listen : String) : Except IoError (Endpoint × Host) := do
  Id.run (firstOf (fun e => pure (h.bindEndpoint p e)) .noAddress (← h.resolve listen))

/-- Connects to the first endpoint of a text that can be reached. -/
def connect (h : Host) (p : Protocol) (target : String) : Except IoError Unit := do
  Id.run (firstOf (fun e => pure (h.reach p e)) .noAddress (← h.resolve target))

/-- What becomes of an attempt to send to `e` from a socket bound to `source`. A datagram does not
leave IPv4. -/
def reachFrom (h : Host) (p : Protocol) (source e : Endpoint) : Except IoError Unit :=
  if p = .udp ∧ source.ip.isV4 ∧ !e.ip.isV4 then .error .familyNotSupported else h.reach p e

/-- Whether an address can be bound where the only interface has no address: any of IPv4, and of
IPv6 the unspecified one and those of groups. Some are complete only with the interface. -/
def allowsWithoutAddress (interface : UInt32) : Endpoint → Except IoError Unit
  | .v4 .. => .ok ()
  | .v6 ip _ _ scope =>
    if ip.mapped?.isSome || ip == .unspecified then .ok ()
    else if ip.isScoped && scope == 0 then .error .invalidArgument
    else if ip.isScoped && scope != interface then .error .noSuchDevice
    else if ip.isMulticast then .ok ()
    else .error .addressNotAvailable

/-- What becomes of an attempt to send where the only interface has no address. -/
def reachWithoutAddress (p : Protocol) : Endpoint → IoError
  | .v4 .. => .networkUnreachable
  | .v6 ip _ _ scope =>
    if ip.mapped?.isSome then .networkUnreachable
    else if p = .tcp ∧ ip.isMulticast then .networkUnreachable
    else if ip.isScoped && scope == 0 then .invalidArgument
    else .addressNotAvailable

/-- A machine that knows no names and reaches nothing. -/
def isolated : Host where
  interfaces := [("lo", 1)]
  allows := allowsWithoutAddress 1
  reach p e := .error (reachWithoutAddress p e)

end Host

end SocketRelay.Net
