import SocketRelay.Text.Reader

/-!
# Digits

Reading numbers written in a base from two to thirty-six. Letters count as
digits above nine in either case.
-/

namespace SocketRelay.Text

/-- The value of a digit in `base`. -/
def digitValue? (base : Nat) (c : Char) : Option Nat :=
  let n := c.toNat
  let v? :=
    if 0x30 ≤ n && n ≤ 0x39 then some (n - 0x30)
    else if 0x61 ≤ n && n ≤ 0x7A then some (n - 0x61 + 10)
    else if 0x41 ≤ n && n ≤ 0x5A then some (n - 0x41 + 10)
    else none
  v?.bind fun v => if v < base then some v else none

/-- Whether `c` is a digit in `base`. -/
def isDigitIn (base : Nat) (c : Char) : Bool :=
  (digitValue? base c).isSome

/-- The number written by `cs`, most significant digit first. -/
def valueOf (base : Nat) (cs : List Char) : Nat :=
  cs.foldl (fun n c => base * n + (digitValue? base c).getD 0) 0

/-- A digit as `Nat.toDigits` writes it reads back as its value. -/
theorem digitValue?_digitChar {base d : Nat} (hb : base ≤ 16) (hd : d < base) :
    digitValue? base (Nat.digitChar d) = some d := by
  have h : ∀ d < 16, ((digitValue? 16 (Nat.digitChar d)) = some d) := by decide
  have hd16 := h d (by omega)
  simp only [digitValue?, Option.bind_eq_some_iff] at hd16 ⊢
  obtain ⟨w, hw, e⟩ := hd16
  refine ⟨w, hw, ?_⟩
  split at e
  · cases e; simp [hd]
  · cases e

/-- The number a text of digits writes; `none` if it is empty or holds anything else. -/
def number? (base : Nat) (cs : List Char) : Option Nat :=
  if cs.isEmpty || !cs.all (isDigitIn base) then none else some (valueOf base cs)

/-- The number that decimal digits write after at most one plus sign. -/
def decimal? (cs : List Char) : Option Nat :=
  match cs with
  | '+' :: digits => number? 10 digits
  | digits => number? 10 digits

/-- How a number is written inside an address. -/
structure NumberFormat where
  base : Nat
  /-- The largest value. -/
  limit : Nat
  /-- The most digits, if bounded. -/
  maxDigits : Option Nat
  /-- Whether zeros may be written in front. -/
  leadingZeros : Bool

/-- Reads the longest run of digits and refuses it unless it has the format. -/
def NumberFormat.read (f : NumberFormat) : Reader Nat := fun cs =>
  let ds := cs.takeWhile (isDigitIn f.base)
  let tooLong := f.maxDigits.any (· < ds.length)
  let zeros := !f.leadingZeros && 1 < ds.length && ds.head? == some '0'
  if ds.isEmpty || tooLong || zeros || f.limit < valueOf f.base ds then none
  else some (valueOf f.base ds, cs.dropWhile (isDigitIn f.base))

end SocketRelay.Text
