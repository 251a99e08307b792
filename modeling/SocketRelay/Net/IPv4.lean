import SocketRelay.Text.Digits

/-!
# IPv4 addresses

Four bytes, written in decimal with dots between them. A byte is written
without leading zeros, so every address has one spelling.
-/

namespace SocketRelay.Net

open Text

structure IPv4 where
  a : UInt8
  b : UInt8
  c : UInt8
  d : UInt8
  deriving DecidableEq, Repr, Inhabited

namespace IPv4

/-- `0.0.0.0`: every local address. -/
def unspecified : IPv4 := ⟨0, 0, 0, 0⟩

def loopback : IPv4 := ⟨127, 0, 0, 1⟩

/-- The address whose four bytes are those of `n`, most significant first. -/
def ofNat (n : Nat) : IPv4 :=
  ⟨(n / 0x1000000).toUInt8, (n / 0x10000).toUInt8, (n / 0x100).toUInt8, n.toUInt8⟩

/-- One byte in decimal. -/
def byteChars (x : UInt8) : List Char := Nat.toDigits 10 x.toNat

def chars (ip : IPv4) : List Char :=
  byteChars ip.a ++ '.' :: byteChars ip.b ++ '.' :: byteChars ip.c ++ '.' :: byteChars ip.d

def text (ip : IPv4) : String := String.ofList ip.chars

/-- One byte of an address: at most three digits, no zero in front. -/
def byteFormat : NumberFormat := ⟨10, 255, some 3, false⟩

/-- Reads an address from the front of a text. -/
def read : Reader IPv4 := fun cs => do
  let (a, cs) ← byteFormat.read cs
  let ((), cs) ← readChar '.' cs
  let (b, cs) ← byteFormat.read cs
  let ((), cs) ← readChar '.' cs
  let (c, cs) ← byteFormat.read cs
  let ((), cs) ← readChar '.' cs
  let (d, cs) ← byteFormat.read cs
  return (⟨a.toUInt8, b.toUInt8, c.toUInt8, d.toUInt8⟩, cs)

end IPv4

end SocketRelay.Net
