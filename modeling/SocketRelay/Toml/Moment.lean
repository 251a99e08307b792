import SocketRelay.Text.Digits

/-!
# Dates and times

A moment is a date, a time of day, or a date with a time and perhaps an offset.
Only its form and ranges are checked; it stays as written.
-/

namespace SocketRelay.Toml

open Text

/-- Reads a number of exactly `count` digits between the bounds. -/
def readFixed (count low high : Nat) : Reader Nat := fun cs => do
  let digits := cs.take count
  let n ← number? 10 digits
  if digits.length = count ∧ low ≤ n ∧ n ≤ high then some (n, cs.drop count) else none

def isLeapYear (year : Nat) : Bool :=
  year % 4 == 0 && (year % 100 != 0 || year % 400 == 0)

def daysIn (year month : Nat) : Nat :=
  if month = 2 then if isLeapYear year then 29 else 28
  else if month ∈ [4, 6, 9, 11] then 30
  else 31

def readDate : Reader Unit := fun cs => do
  let (year, cs) ← readFixed 4 0 9999 cs
  let ((), cs) ← readChar '-' cs
  let (month, cs) ← readFixed 2 1 12 cs
  let ((), cs) ← readChar '-' cs
  let (_, cs) ← readFixed 2 1 (daysIn year month) cs
  return ((), cs)

/-- Reads an hour and a minute. -/
def readClock : Reader Unit := fun cs => do
  let (_, cs) ← readFixed 2 0 23 cs
  let ((), cs) ← readChar ':' cs
  let (_, cs) ← readFixed 2 0 59 cs
  return ((), cs)

/-- Reads a time of day; a second may be a leap second and have a fraction. -/
def readTime : Reader Unit := fun cs => do
  let ((), cs) ← readClock cs
  let ((), cs) ← readChar ':' cs
  let (_, cs) ← readFixed 2 0 60 cs
  match cs with
  | '.' :: c :: rest =>
    if isDigitIn 10 c then return ((), rest.dropWhile (isDigitIn 10)) else return ((), cs)
  | _ => return ((), cs)

/-- Reads the offset from universal time. -/
def readOffset : Reader Unit
  | c :: cs =>
    if c = 'Z' ∨ c = 'z' then some ((), cs)
    else if c = '+' ∨ c = '-' then readClock cs
    else none
  | [] => none

/-- Reads the time and the offset after a date. -/
def readTimeAfterDate : Reader Unit
  | c :: cs =>
    if c = 'T' ∨ c = 't' ∨ c = ' ' then do
      let ((), cs) ← readTime cs
      readOffset cs <|> some ((), cs)
    else none
  | [] => none

/-- Reads a moment. -/
def readMoment : Reader String := fun cs => do
  let ((), rest) ←
    (do
      let ((), cs) ← readDate cs
      readTimeAfterDate cs <|> some ((), cs)) <|> readTime cs
  return (String.ofList (cs.take (cs.length - rest.length)), rest)

end SocketRelay.Toml
