import SocketRelay.Text.Digits
import SocketRelay.Text.Split
import SocketRelay.Toml.Value

/-!
# Numbers

Integers in four bases within sixty-four bits, and binary64 numbers. Single
underscores may stand between digits. A number too large for binary64 is
refused if it is positive and read as infinity if it is negative.
-/

namespace SocketRelay.Toml

open Text

/-- Whether every underscore stands between two other characters. -/
def underscoresBetween (cs : List Char) : Bool :=
  (splitAll '_' cs).all (!·.isEmpty)

/-- Reads digits with underscores between them, and leaves the underscores out. -/
def readDigits (base : Nat) : Reader (List Char) := fun cs =>
  let isPart := fun c => isDigitIn base c || c == '_'
  let run := cs.takeWhile isPart
  if underscoresBetween run then some (run.filter (· != '_'), cs.dropWhile isPart) else none

/-- Reads a sign, and says whether it is a minus. -/
def readSign : List Char → Bool × List Char
  | '+' :: cs => (false, cs)
  | '-' :: cs => (true, cs)
  | cs => (false, cs)

/-- The integer of this sign and magnitude. -/
def integer? (negative : Bool) (n : Nat) : Option Value :=
  let i : Int := if negative then -n else n
  if Int64.minValue.toInt ≤ i ∧ i ≤ Int64.maxValue.toInt then some (.integer (Int64.ofInt i))
  else none

/-- Reads an integer after the mark of its base. -/
def readBased (base : Nat) : Reader Value := fun cs => do
  let (digits, cs) ← readDigits base cs
  return (← integer? false (valueOf base digits), cs)

/-- Reads the digits after a point. -/
def readFraction : List Char → Option (Option (List Char) × List Char)
  | '.' :: cs => (readDigits 10 cs).map fun (ds, cs) => (some ds, cs)
  | cs => some (none, cs)

/-- Reads an exponent. -/
def readExponent : List Char → Option (Option Int × List Char)
  | c :: cs =>
    if c = 'e' ∨ c = 'E' then
      let (negative, cs) := readSign cs
      (readDigits 10 cs).map fun (ds, cs) =>
        let n : Int := valueOf 10 ds
        (some (if negative then -n else n), cs)
    else some (none, c :: cs)
  | [] => some (none, [])

/-- Reads a decimal number after its sign. -/
def readDecimal (negative : Bool) : Reader Value := fun cs => do
  let (whole, cs) ← readDigits 10 cs
  if 1 < whole.length ∧ whole.head? = some '0' then none
  let (fraction, cs) ← readFraction cs
  let (exponent, cs) ← readExponent cs
  if fraction.isNone ∧ exponent.isNone then
    return (← integer? negative (valueOf 10 whole), cs)
  else
    let digits := fraction.getD []
    let x := Binary64.ofDecimal negative (valueOf 10 (whole ++ digits))
      (exponent.getD 0 - digits.length)
    if x = Binary64.infinity false then none else return (.float x, cs)

/-- Reads a number. -/
def readNumber : Reader Value := fun cs =>
  match cs with
  | '0' :: 'x' :: cs => readBased 16 cs
  | '0' :: 'o' :: cs => readBased 8 cs
  | '0' :: 'b' :: cs => readBased 2 cs
  | _ =>
    let (negative, cs) := readSign cs
    match cs with
    | 'i' :: 'n' :: 'f' :: cs => some (.float (.infinity negative), cs)
    | 'n' :: 'a' :: 'n' :: cs => some (.float (.nan negative), cs)
    | _ => readDecimal negative cs

end SocketRelay.Toml
