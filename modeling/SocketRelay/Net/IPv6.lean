import SocketRelay.Net.IPv4

/-!
# IPv6 addresses

Eight groups of sixteen bits, written as RFC 5952 recommends: lower-case
hexadecimal without leading zeros, the first longest run of two or more zero
groups as `::`, and dotted decimal at the end of an IPv4-mapped address only.
The reader takes any spelling: leading zeros up to four digits, either case,
`::` for one group or more, and dotted decimal for the last two groups.
-/

namespace SocketRelay.Net

open Text

structure IPv6 where
  groups : List UInt16
  length_groups : groups.length = 8
  deriving DecidableEq, Repr

namespace IPv6

instance : Inhabited IPv6 := ⟨⟨List.replicate 8 0, rfl⟩⟩

/-- `::`: every local address. -/
def unspecified : IPv6 := ⟨List.replicate 8 0, rfl⟩

def ofList? (groups : List UInt16) : Option IPv6 :=
  if h : groups.length = 8 then some ⟨groups, h⟩ else none

/-- The IPv4 address carried by `::ffff:a.b.c.d`. -/
def mapped? (ip : IPv6) : Option IPv4 :=
  match ip.groups with
  | [0, 0, 0, 0, 0, 0xffff, x, y] => some (.ofNat (x.toNat * 0x10000 + y.toNat))
  | _ => none

/-! ## Kinds of addresses -/

def firstGroup (ip : IPv6) : UInt16 := ip.groups.headD 0

/-- Whether this is an address of `fe80::/10`, which are those of a link. -/
def isLinkLocal (ip : IPv6) : Bool := ip.firstGroup &&& 0xffc0 == 0xfe80

/-- Whether this is an address of `ff00::/8`, which are those of groups. -/
def isMulticast (ip : IPv6) : Bool := ip.firstGroup &&& 0xff00 == 0xff00

/-- Whether this is the address of a group on a link. -/
def isLinkMulticast (ip : IPv6) : Bool := ip.firstGroup &&& 0xff0f == 0xff02

/-- Whether this is the address of a group on an interface. -/
def isInterfaceMulticast (ip : IPv6) : Bool := ip.firstGroup &&& 0xff0f == 0xff01

/-- Whether the address is complete only with the interface it is on. -/
def isScoped (ip : IPv6) : Bool :=
  ip.isLinkLocal || ip.isLinkMulticast || ip.isInterfaceMulticast

/-! ## Writing -/

/-- A run of zero groups. -/
structure Run where
  start : Nat
  length : Nat
  deriving DecidableEq, Repr

/-- How many zero groups `gs` starts with. -/
def leadingZeros (gs : List UInt16) : Nat := (gs.takeWhile (· == 0)).length

/-- The first of the longest runs of zero groups. -/
def longestRun (gs : List UInt16) : Run :=
  (List.range gs.length).foldl
    (fun best i =>
      let n := leadingZeros (gs.drop i)
      if best.length < n then ⟨i, n⟩ else best)
    ⟨0, 0⟩

/-- One group in hexadecimal. -/
def groupChars (g : UInt16) : List Char := Nat.toDigits 16 g.toNat

/-- Groups with colons between them. -/
def groupsChars : List UInt16 → List Char
  | [] => []
  | [g] => groupChars g
  | g :: gs => groupChars g ++ ':' :: groupsChars gs

def chars (ip : IPv6) : List Char :=
  match ip.mapped? with
  | some v4 => "::ffff:".toList ++ v4.chars
  | none =>
    let run := longestRun ip.groups
    if 1 < run.length then
      groupsChars (ip.groups.take run.start) ++ "::".toList ++
        groupsChars (ip.groups.drop (run.start + run.length))
    else groupsChars ip.groups

def text (ip : IPv6) : String := String.ofList ip.chars

/-! ## Reading -/

/-- One group: at most four hexadecimal digits. -/
def groupFormat : NumberFormat := ⟨16, 0xffff, some 4, true⟩

/-- Groups read from a text, and whether the last two were dotted decimal. -/
structure Groups where
  groups : List UInt16
  dotted : Bool
  rest : List Char

/-- Reads up to `n` groups with colons between them. Dotted decimal takes the room of two
groups and ends the list. -/
def readGroups : Nat → Bool → List Char → Groups
  | 0, _, cs => ⟨[], false, cs⟩
  | n + 1, first, cs =>
    let here := if first then some cs else (readChar ':' cs).map (·.2)
    match (if n = 0 then none else here.bind IPv4.read) with
    | some (v4, rest) =>
      ⟨[(v4.a.toNat * 256 + v4.b.toNat).toUInt16, (v4.c.toNat * 256 + v4.d.toNat).toUInt16],
        true, rest⟩
    | none =>
      match here.bind groupFormat.read with
      | some (g, rest) =>
        let more := readGroups n false rest
        ⟨g.toUInt16 :: more.groups, more.dotted, more.rest⟩
      | none => ⟨[], false, cs⟩

/-- Reads an address from the front of a text. -/
def read : Reader IPv6 := fun cs => do
  let head := readGroups 8 true cs
  if head.groups.length = 8 then
    return (← ofList? head.groups, head.rest)
  else if head.dotted then none
  else do
    let ((), cs) ← readChar ':' head.rest
    let ((), cs) ← readChar ':' cs
    let tail := readGroups (7 - head.groups.length) true cs
    let zeros := 8 - head.groups.length - tail.groups.length
    return (← ofList? (head.groups ++ List.replicate zeros 0 ++ tail.groups), tail.rest)

end IPv6

end SocketRelay.Net
