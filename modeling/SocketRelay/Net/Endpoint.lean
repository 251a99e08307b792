import SocketRelay.Net.IPv6

/-!
# IP addresses and endpoints

An `Endpoint` is an address and a port. Its text brackets an IPv6 address and
names the scope if there is one; the text is what identifies a client.
-/

namespace SocketRelay.Net

open Text

inductive IpAddress where
  | v4 (ip : IPv4)
  | v6 (ip : IPv6)
  deriving DecidableEq, Repr, Inhabited

namespace IpAddress

def chars : IpAddress → List Char
  | v4 ip => ip.chars
  | v6 ip => ip.chars

def text (ip : IpAddress) : String := String.ofList ip.chars

def unspecified : IpAddress := v4 .unspecified

/-- Reads an address of either family from the front of a text. -/
def read : Reader IpAddress := fun cs =>
  match IPv4.read cs with
  | some (ip, rest) => some (v4 ip, rest)
  | none => (IPv6.read cs).map fun (ip, rest) => (v6 ip, rest)

/-- The address that the whole text writes. -/
def parse? (s : String) : Option IpAddress :=
  match read s.toList with
  | some (ip, []) => some ip
  | _ => none

def isV4 : IpAddress → Bool
  | v4 _ => true
  | v6 _ => false

/-- Whether this stands for every address of its family. -/
def isUnspecified : IpAddress → Bool
  | v4 ip => ip == .unspecified
  | v6 ip => ip == .unspecified

/-- The IPv4 address that an IPv6 address carries, or else the address itself. -/
def unmapped : IpAddress → IpAddress
  | v4 ip => v4 ip
  | v6 ip => ip.mapped?.elim (v6 ip) v4

end IpAddress

/-- An address and a port. -/
inductive Endpoint where
  | v4 (ip : IPv4) (port : UInt16)
  | v6 (ip : IPv6) (port : UInt16) (flow scope : UInt32)
  deriving DecidableEq, Repr, Inhabited

namespace Endpoint

def of (ip : IpAddress) (port : UInt16) : Endpoint :=
  match ip with
  | .v4 ip => .v4 ip port
  | .v6 ip => .v6 ip port 0 0

def ip : Endpoint → IpAddress
  | v4 ip _ => .v4 ip
  | v6 ip _ _ _ => .v6 ip

def port : Endpoint → UInt16
  | v4 _ p => p
  | v6 _ p _ _ => p

/-- The same address with another port. -/
def withPort (p : UInt16) : Endpoint → Endpoint
  | v4 ip _ => v4 ip p
  | v6 ip _ f s => v6 ip p f s

/-- The endpoint without a flow, and without a scope if its address needs none. -/
def essential : Endpoint → Endpoint
  | v4 ip p => v4 ip p
  | v6 ip p _ s => v6 ip p 0 (if ip.isScoped then s else 0)

@[simp] theorem ip_of (ip : IpAddress) (p : UInt16) : (of ip p).ip = ip := by
  cases ip <;> rfl

@[simp] theorem port_of (ip : IpAddress) (p : UInt16) : (of ip p).port = p := by
  cases ip <;> rfl

/-- A port in decimal. -/
def portChars (p : UInt16) : List Char := Nat.toDigits 10 p.toNat

/-- The port that decimal digits write after at most one plus sign. -/
def parsePort? (cs : List Char) : Option UInt16 :=
  (decimal? cs).bind fun n => if n ≤ 65535 then some n.toUInt16 else none

/-- The scope of an IPv6 address, written only if it is not zero. -/
def scopeChars (scope : UInt32) : List Char :=
  if scope = 0 then [] else '%' :: Nat.toDigits 10 scope.toNat

def chars : Endpoint → List Char
  | v4 ip p => ip.chars ++ ':' :: portChars p
  | v6 ip p _ s => '[' :: ip.chars ++ scopeChars s ++ ']' :: ':' :: portChars p

def text (e : Endpoint) : String := String.ofList e.chars

instance : ToString Endpoint := ⟨text⟩

/-- A port: any number of digits, zeros in front allowed. -/
def portFormat : NumberFormat := ⟨10, 65535, none, true⟩

def scopeFormat : NumberFormat := ⟨10, 4294967295, none, true⟩

/-- Reads a colon and a port. -/
def readPort : Reader UInt16 := fun cs => do
  let ((), cs) ← readChar ':' cs
  let (p, cs) ← portFormat.read cs
  return (p.toUInt16, cs)

/-- Reads a percent sign and a scope, if they are there. -/
def readScope (cs : List Char) : UInt32 × List Char :=
  match (readChar '%' cs).bind fun ((), r) => scopeFormat.read r with
  | some (s, rest) => (s.toUInt32, rest)
  | none => (0, cs)

def readV4 : Reader Endpoint := fun cs => do
  let (ip, cs) ← IPv4.read cs
  let (p, cs) ← readPort cs
  return (v4 ip p, cs)

def readV6 : Reader Endpoint := fun cs => do
  let ((), cs) ← readChar '[' cs
  let (ip, cs) ← IPv6.read cs
  let (scope, cs) := readScope cs
  let ((), cs) ← readChar ']' cs
  let (p, cs) ← readPort cs
  return (v6 ip p 0 scope, cs)

/-- Reads an endpoint of either family from the front of a text. -/
def read : Reader Endpoint := fun cs =>
  match readV4 cs with
  | some r => some r
  | none => readV6 cs

/-- The endpoint that the whole text writes. -/
def parse? (s : String) : Option Endpoint :=
  match read s.toList with
  | some (e, []) => some e
  | _ => none

end Endpoint

end SocketRelay.Net
