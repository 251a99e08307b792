/-!
# Time

Durations and instants in nanoseconds. An instant is a reading of a clock that
never goes back and counts milliseconds in sixty-four bits. A deadline may lie
beyond the clock, but holds its whole seconds in sixty-three bits, so adding a
long duration to an instant may have no result.
-/

namespace SocketRelay

/-- A length of time. -/
structure Duration where
  nanos : Nat
  deriving DecidableEq, Repr, Inhabited

namespace Duration

def ofSecs (s : UInt64) : Duration := ⟨s.toNat * 1000000000⟩

def ofMillis (ms : UInt64) : Duration := ⟨ms.toNat * 1000000⟩

/-- Whole milliseconds. -/
def millis (d : Duration) : Nat := d.nanos / 1000000

def isZero (d : Duration) : Bool := d.nanos == 0

instance : LT Duration := ⟨fun a b => a.nanos < b.nanos⟩
instance : LE Duration := ⟨fun a b => a.nanos ≤ b.nanos⟩
instance (a b : Duration) : Decidable (a < b) := inferInstanceAs (Decidable (a.nanos < b.nanos))
instance (a b : Duration) : Decidable (a ≤ b) := inferInstanceAs (Decidable (a.nanos ≤ b.nanos))

theorem lt_iff {a b : Duration} : a < b ↔ a.nanos < b.nanos := Iff.rfl

theorem le_iff {a b : Duration} : a ≤ b ↔ a.nanos ≤ b.nanos := Iff.rfl

/-- The part of a duration that is left after another. -/
def minus (a b : Duration) : Duration := ⟨a.nanos - b.nanos⟩

end Duration

/-- A point in time on a clock that never goes back. -/
structure Instant where
  nanos : Nat
  nanos_lt : nanos < UInt64.size * 1000000 := by decide
  deriving DecidableEq, Repr

namespace Instant

instance : Inhabited Instant := ⟨⟨0, by decide⟩⟩

/-- When the clock starts. -/
def zero : Instant := ⟨0, by decide⟩

def ofMillis (ms : UInt64) : Instant :=
  ⟨ms.toNat * 1000000, by have := ms.toNat_lt; simp only [UInt64.size]; omega⟩

instance : LE Instant := ⟨fun a b => a.nanos ≤ b.nanos⟩
instance (a b : Instant) : Decidable (a ≤ b) := inferInstanceAs (Decidable (a.nanos ≤ b.nanos))

theorem le_iff {a b : Instant} : a ≤ b ↔ a.nanos ≤ b.nanos := Iff.rfl

/-- The time from `earlier` to `t`, zero if `earlier` is later. -/
def since (t earlier : Instant) : Duration := ⟨t.nanos - earlier.nanos⟩

/-- The largest number of whole seconds a deadline can hold. -/
def maxSeconds : Nat := 0x7FFFFFFFFFFFFFFF

/-- Whether there is a deadline `d` after `t`. -/
def reaches (t : Instant) (d : Duration) : Bool :=
  (t.nanos + d.nanos) / 1000000000 ≤ maxSeconds

/-- The whole milliseconds between two instants fit into sixty-four bits. -/
theorem millis_since_lt (t earlier : Instant) : (t.since earlier).millis < UInt64.size := by
  have := t.nanos_lt
  simp only [since, Duration.millis]
  omega

end Instant

end SocketRelay
