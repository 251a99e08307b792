/-!
# Binary64 numbers

Reading a decimal number as the nearest binary64 number, and writing a binary64
number with the fewest decimal digits that read back. Both work on exact
fractions of natural numbers.
-/

namespace SocketRelay.Toml

/-- A binary64 number by its bits. -/
structure Binary64 where
  bits : UInt64
  deriving DecidableEq, Repr, Inhabited

namespace Binary64

/-- The quotient rounded to the nearest integer, a tie to the even one. -/
def roundDiv (n d : Nat) : Nat :=
  let q := n / d
  let r := n % d
  if 2 * r < d then q
  else if d < 2 * r then q + 1
  else q + q % 2

/-- The quotient rounded to the nearest integer, a tie to the greater one. -/
def roundDivUp (n d : Nat) : Nat := (2 * n + d) / (2 * d)

/-- How many fractions there are between two powers of two. -/
def fractions : Nat := 0x10000000000000

/-- How many numbers have one sign. -/
def magnitudes : Nat := 0x8000000000000000

def signBit (negative : Bool) : Nat := if negative then magnitudes else 0

def infinityBits : Nat := 0x7FF * fractions

def infinity (negative : Bool) : Binary64 := ⟨(signBit negative + infinityBits).toUInt64⟩

def nan (negative : Bool) : Binary64 :=
  ⟨(signBit negative + infinityBits + fractions / 2).toUInt64⟩

/-- `n * 2 ^ e` and `d` brought to a common scale. -/
def scaled (n d : Nat) (e : Int) : Nat × Nat :=
  if e < 0 then (n, d * Nat.pow 2 (-e).toNat) else (n * Nat.pow 2 e.toNat, d)

/-- The number nearest to `n / d`. -/
def ofRatio (negative : Bool) (n d : Nat) : Binary64 :=
  if n = 0 then ⟨(signBit negative).toUInt64⟩
  else
    let k : Int := Nat.log2 n - Nat.log2 d
    let (a, b) := scaled n d (-k)
    let top := if b ≤ a then k else k - 1
    let q := max (top - 52) (-1074)
    let (a, b) := scaled n d (-q)
    let word := (q + 1074).toNat * fractions + roundDiv a b
    ⟨(signBit negative + min word infinityBits).toUInt64⟩

/-- The number nearest to `digits * 10 ^ exponent`. -/
def ofDecimal (negative : Bool) (digits : Nat) (exponent : Int) : Binary64 :=
  let size : Int := (Nat.toDigits 10 digits).length + exponent
  if digits = 0 ∨ size < -330 then ofRatio negative 0 1
  else if 310 < size then infinity negative
  else if exponent < 0 then ofRatio negative digits (Nat.pow 10 (-exponent).toNat)
  else ofRatio negative (digits * Nat.pow 10 exponent.toNat) 1

def isNegative (x : Binary64) : Bool := magnitudes ≤ x.bits.toNat

/-- The bits without the sign. -/
def magnitude (x : Binary64) : Nat := x.bits.toNat % magnitudes

def isNaN (x : Binary64) : Bool := infinityBits < x.magnitude

def isInfinite (x : Binary64) : Bool := x.magnitude == infinityBits

/-! ## Writing -/

/-- The number `digits * 10 ^ exponent`. -/
structure Decimal where
  digits : Nat
  exponent : Int
  deriving DecidableEq, Repr

/-- The least power of ten above `n / d`. -/
def powerAbove (n d : Nat) : Int :=
  if d ≤ n then (Nat.toDigits 10 (n / d)).length
  else
    match (List.range 400).find? fun j => d ≤ n * Nat.pow 10 (j + 1) with
    | some j => -j
    | none => 0

/-- A fraction with the interval of fractions that round to it, over one denominator. -/
structure Rounding where
  low : Nat
  value : Nat
  high : Nat
  denominator : Nat
  /-- Whether the ends of the interval round to the value too. -/
  closed : Bool

def rounding (x : Binary64) : Rounding :=
  let field : Nat := x.magnitude / fractions
  let fraction := x.magnitude % fractions
  let m := if field = 0 then fraction else fraction + fractions
  let q : Int := (max field 1 : Nat) - 1077
  let below := if fraction = 0 ∧ 1 < field then 1 else 2
  let (value, denominator) := scaled (4 * m) 1 q
  let unit := (scaled 1 1 q).1
  ⟨value - below * unit, value, value + 2 * unit, denominator, m % 2 == 0⟩

/-- Whether `n / d` rounds to the value. -/
def Rounding.has (r : Rounding) (n d : Nat) : Bool :=
  let a := n * r.denominator
  if r.closed then r.low * d ≤ a && a ≤ r.high * d
  else r.low * d < a && a < r.high * d

/-- The multiple of `10 ^ exponent` that is nearest to the value, if one rounds to it. Of two that
are equally near it is the greater one. -/
def Rounding.decimal? (r : Rounding) (exponent : Int) : Option Decimal :=
  let up := Nat.pow 10 exponent.toNat
  let down := Nat.pow 10 (-exponent).toNat
  let below := r.value * down / (r.denominator * up)
  let nearest := roundDivUp (r.value * down) (r.denominator * up)
  let other := if nearest = below then below + 1 else below
  if r.has (nearest * up) down then some ⟨nearest, exponent⟩
  else if r.has (other * up) down then some ⟨other, exponent⟩
  else none

/-- The same number without zeros at the end of its digits. -/
def Decimal.trimmed (d : Decimal) : Decimal :=
  let zeros := ((Nat.toDigits 10 d.digits).reverse.takeWhile (· == '0')).length
  ⟨d.digits / Nat.pow 10 zeros, d.exponent + zeros⟩

/-- The shortest decimal that reads back as a number other than zero. -/
def shortest (x : Binary64) : Decimal :=
  let r := x.rounding
  let power := powerAbove r.value r.denominator
  (((List.range 17).findSome? fun (k : Nat) => r.decimal? (power - (k + 1))).getD ⟨0, 0⟩).trimmed

/-- A decimal without an exponent, with digits on both sides of the point. -/
def Decimal.chars (d : Decimal) : List Char :=
  let ds := Nat.toDigits 10 d.digits
  let point := ds.length + d.exponent
  if point ≤ 0 then '0' :: '.' :: List.replicate (-point).toNat '0' ++ ds
  else
    let n := point.toNat
    if ds.length ≤ n then ds ++ List.replicate (n - ds.length) '0' ++ ['.', '0']
    else ds.take n ++ '.' :: ds.drop n

def text (x : Binary64) : String :=
  if x.isNaN then "NaN"
  else
    let body :=
      if x.isInfinite then "inf".toList
      else if x.magnitude = 0 then "0.0".toList
      else x.shortest.chars
    String.ofList (if x.isNegative then '-' :: body else body)

instance : ToString Binary64 := ⟨text⟩

end Binary64

end SocketRelay.Toml
