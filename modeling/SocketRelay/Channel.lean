/-!
# Channels

A channel holds values on their way from senders to one receiver, up to its
capacity. Offering never waits: it says whether the value was taken, the channel
was full, or the receiver is gone. Values come out in the order they went in.
-/

namespace SocketRelay

structure Channel (α : Type) where
  capacity : Nat
  items : List α := []
  /-- Whether the receiver is gone. -/
  closed : Bool := false
  deriving DecidableEq, Repr

namespace Channel

variable {α : Type}

/-- The most slots a channel can have. -/
def maxCapacity : Nat := 0x1FFFFFFFFFFFFFFF

/-- Whether there can be a channel of this capacity. -/
def canHave (capacity : Nat) : Bool := 0 < capacity && capacity ≤ maxCapacity

/-- What becomes of a value that is offered. -/
inductive Offered where
  | taken
  | full
  | closed
  deriving DecidableEq, Repr

/-- Puts a value at the end, if the receiver is there and a slot is free. -/
def offer (c : Channel α) (a : α) : Channel α × Offered :=
  if c.closed then (c, .closed)
  else if c.capacity ≤ c.items.length then (c, .full)
  else ({ c with items := c.items ++ [a] }, .taken)

/-- Takes the value at the front. -/
def next? (c : Channel α) : Option (α × Channel α) :=
  match c.items with
  | [] => none
  | a :: rest => some (a, { c with items := rest })

/-- The channel without its receiver. What it held is lost. -/
def close (c : Channel α) : Channel α := { c with items := [], closed := true }

/-- Takes up to `n` values. -/
def takeUpTo (c : Channel α) (n : Nat) : List α × Channel α :=
  (c.items.take n, { c with items := c.items.drop n })

theorem offer_cases (c : Channel α) (a : α) :
    (c.closed = true ∧ c.offer a = (c, .closed)) ∨
    (c.closed = false ∧ c.capacity ≤ c.items.length ∧ c.offer a = (c, .full)) ∨
    (c.closed = false ∧ c.items.length < c.capacity ∧
      c.offer a = ({ c with items := c.items ++ [a] }, .taken)) := by
  unfold offer
  split
  · next closed => exact .inl ⟨closed, rfl⟩
  · next isOpen =>
    have isOpen : c.closed = false := by simpa using isOpen
    split
    · next full => exact .inr (.inl ⟨isOpen, full, rfl⟩)
    · next free => exact .inr (.inr ⟨isOpen, by omega, rfl⟩)

theorem next?_eq_some {c c' : Channel α} {a : α} (h : c.next? = some (a, c')) :
    c.items = a :: c'.items ∧ c' = { c with items := c'.items } := by
  unfold next? at h
  split at h
  · cases h
  · next items => cases h; exact ⟨items, rfl⟩

end Channel

end SocketRelay
