import SocketRelay.Net.Endpoint
import SocketRelay.Net.IoError
import SocketRelay.Text.Split

/-!
# Resolving addresses

An address text is an endpoint, or a host and a port with a colon between them.
A host is looked up only if the text is well formed. Some hosts are numbers and
need no names: the forms of an IPv4 address with one to four parts, each in
decimal, octal or hexadecimal, and IPv6 addresses, perhaps with a zone.
-/

namespace SocketRelay.Net

open Text

inductive AddressText where
  | literal (e : Endpoint)
  | named (host : String) (port : UInt16)
  deriving DecidableEq, Repr

def AddressText.parse (s : String) : Except IoError AddressText :=
  match Endpoint.parse? s with
  | some e => .ok (.literal e)
  | none =>
    match splitLast ':' s.toList with
    | none => .error .invalidSocketAddress
    | some (host, port) =>
      match Endpoint.parsePort? port with
      | none => .error .invalidPort
      | some p =>
        if '\x00' ∈ host then .error .nulInName else .ok (.named (String.ofList host) p)

/-- What hosts are found with. -/
structure Directory where
  /-- The addresses of a host name. -/
  lookup : String → Except IoError (List IpAddress)
  /-- The numbers of the network interfaces by name. -/
  interfaces : List (String × UInt32) := []

/-! ## Hosts that are numbers -/

/-- One part of a number in decimal, octal after a zero, or hexadecimal after `0x`. -/
def addressPart? : List Char → Option Nat
  | '0' :: x :: digits =>
    if x = 'x' ∨ x = 'X' then number? 16 digits else number? 8 (x :: digits)
  | digits => number? 10 digits

/-- The address whose last part fills all bytes that the parts before it leave. -/
def addressOfParts? : List Nat → Option IPv4
  | [a] => if a < 0x100000000 then some (.ofNat a) else none
  | [a, b] => if a < 256 ∧ b < 0x1000000 then some (.ofNat (a * 0x1000000 + b)) else none
  | [a, b, c] =>
    if a < 256 ∧ b < 256 ∧ c < 0x10000 then some (.ofNat (a * 0x1000000 + b * 0x10000 + c))
    else none
  | [a, b, c, d] =>
    if a < 256 ∧ b < 256 ∧ c < 256 ∧ d < 256 then
      some (.ofNat (a * 0x1000000 + b * 0x10000 + c * 0x100 + d))
    else none
  | _ => none

/-- The scope that a zone is: a number, or the name of an interface if the address is one of a
link. -/
def scopeOfZone? (interfaces : List (String × UInt32)) (ip : IPv6) (zone : List Char) :
    Option UInt32 :=
  let byName :=
    if ip.isLinkLocal || ip.isLinkMulticast then interfaces.lookup (String.ofList zone) else none
  byName <|> (number? 10 zone).bind fun n => if n < 0x100000000 then some n.toUInt32 else none

/-- The endpoint at an IPv6 address that may have a zone after a percent sign. -/
def zonedHost? (interfaces : List (String × UInt32)) (host : List Char) (port : UInt16) :
    Option Endpoint := do
  let (address, zone) := match splitFirst '%' host with
    | some (address, zone) => (address, some zone)
    | none => (host, none)
  match IPv6.read address, zone with
  | some (ip, []), some zone => return .v6 ip port 0 (← scopeOfZone? interfaces ip zone)
  | some (ip, []), none => some (.v6 ip port 0 0)
  | _, _ => none

/-- The endpoint at a host that is a number. -/
def numericHost? (interfaces : List (String × UInt32)) (host : String) (port : UInt16) :
    Option Endpoint :=
  match (splitAll '.' host.toList).mapM addressPart? with
  | some parts => (addressOfParts? parts).map (.v4 · port)
  | none => zonedHost? interfaces host.toList port

/-! ## Endpoints -/

/-- The endpoints a text stands for. -/
def resolve (d : Directory) (s : String) : Except IoError (List Endpoint) := do
  match ← AddressText.parse s with
  | .literal e => return [e]
  | .named host port =>
    match numericHost? d.interfaces host port with
    | some e => return [e]
    | none => return (← d.lookup host).map (.of · port)

/-- The first success of attempts on endpoints in order, or the last error. -/
def firstOf {m : Type → Type} [Monad m] {α : Type} (attempt : Endpoint → m (Except IoError α))
    (none : IoError) : List Endpoint → m (Except IoError α)
  | [] => return .error none
  | e :: es => do
    match ← attempt e with
    | .ok a => return .ok a
    | .error cause => firstOf attempt cause es

end SocketRelay.Net
