import SocketRelay.Net.Endpoint

/-!
# Routes

A route relays one local port to one fixed remote endpoint. `listenAddress` is
what the relay binds and `targetAddress` what it connects to.
-/

namespace SocketRelay

open Net

/-- Transport protocol of a route. -/
inductive Protocol where
  | tcp
  | udp
  deriving DecidableEq, Repr, Inhabited

namespace Protocol

/-- The name in messages. -/
def text : Protocol → String
  | tcp => "TCP"
  | udp => "UDP"

/-- The name in a configuration file. -/
def key : Protocol → String
  | tcp => "tcp"
  | udp => "udp"

instance : ToString Protocol := ⟨text⟩

/-- Every protocol by the name it has in a configuration file. -/
def keys : List (String × Protocol) := [("tcp", tcp), ("udp", udp)]

/-- The protocol of this name, in any mixture of ASCII case. -/
def parse? (s : String) : Option Protocol := keys.lookup s.toLower

end Protocol

structure Route where
  protocol : Protocol
  /-- Local address to bind. -/
  bindAddress : IpAddress := .unspecified
  localPort : UInt16
  /-- Host name or IP address of the remote. -/
  remoteHost : String
  remotePort : UInt16
  deriving DecidableEq, Repr, Inhabited

namespace Route

/-- The endpoint the relay listens on. -/
def listener (r : Route) : Endpoint := .of r.bindAddress r.localPort

def listenAddress (r : Route) : String := r.listener.text

/-- A host as written before a port: one with a colon goes in brackets unless it has them. -/
def hostChars (host : List Char) : List Char :=
  if ':' ∈ host ∧ host.head? ≠ some '[' then '[' :: host ++ [']'] else host

def targetChars (r : Route) : List Char :=
  hostChars r.remoteHost.toList ++ ':' :: Endpoint.portChars r.remotePort

def targetAddress (r : Route) : String := String.ofList r.targetChars

def text (r : Route) : String :=
  s!"{r.protocol} {r.listenAddress} -> {r.targetAddress}"

instance : ToString Route := ⟨text⟩

end Route

end SocketRelay
