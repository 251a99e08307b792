import SocketRelay.Net.IoError

/-!
# Byte streams

A source is what it will produce, a sink what it will answer. Reading takes at
most a buffer full; writing may take only a part.
-/

namespace SocketRelay.Tcp

open Net

abbrev Bytes := List UInt8

/-- What a stream produces: pieces in order, then its end or an error. -/
structure Source where
  pieces : List Bytes
  failure : Option IoError := none
  deriving DecidableEq, Repr

/-- What a read gives. -/
inductive ReadResult where
  | bytes (bs : Bytes)
  | ended
  | failed (cause : IoError)
  deriving DecidableEq, Repr

namespace Source

/-- Reads at most `size` bytes of the next piece. Empty pieces give nothing to read. -/
def read (s : Source) (size : Nat) : ReadResult × Source :=
  match s.pieces.dropWhile (·.isEmpty) with
  | [] =>
    match s.failure with
    | none => (.ended, { s with pieces := [] })
    | some cause => (.failed cause, { s with pieces := [] })
  | piece :: rest =>
    let left := piece.drop size
    (.bytes (piece.take size), { s with pieces := if left = [] then rest else left :: rest })

/-- All bytes a source produces. -/
def all (s : Source) : Bytes := s.pieces.flatten

end Source

/-- What a write answers: how many bytes it takes at most, or an error. -/
inductive WriteAnswer where
  | accept (limit : Nat)
  | failed (cause : IoError)
  deriving DecidableEq, Repr

structure Sink where
  /-- The answers to the next writes; after them, everything is taken. -/
  answers : List WriteAnswer := []
  taken : Bytes := []
  /-- How often the sink was shut down. -/
  shutdowns : Nat := 0
  deriving DecidableEq, Repr

namespace Sink

/-- Writes some of the bytes, and says which are left. Taking none of them is an error. -/
def write (s : Sink) (bs : Bytes) : Except IoError Bytes × Sink :=
  let take (count : Nat) (answers : List WriteAnswer) : Except IoError Bytes × Sink :=
    if count = 0 then (.error .writeZero, { s with answers })
    else (.ok (bs.drop count), { s with answers, taken := s.taken ++ bs.take count })
  match s.answers with
  | [] => take bs.length []
  | .accept limit :: rest => take (min limit bs.length) rest
  | .failed cause :: rest => (.error cause, { s with answers := rest })

def shutdown (s : Sink) : Sink := { s with shutdowns := s.shutdowns + 1 }

end Sink

end SocketRelay.Tcp
