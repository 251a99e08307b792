/-!
# Readers

A `Reader` consumes the front of a text and returns what is left. `many` stops
at the first failure and at the first reading that consumes nothing, and
`inSteps` takes no more steps than there are characters and one, so both end on
every text.
-/

namespace SocketRelay.Text

/-- Reads a value from the front of a text and returns the rest. -/
abbrev Reader (α : Type) := List Char → Option (α × List Char)

/-- Reads exactly the character `c`. -/
def readChar (c : Char) : Reader Unit
  | d :: cs => if d = c then some ((), cs) else none
  | [] => none

/-- Reads exactly the text `s`. -/
def readText (s : List Char) : Reader Unit := fun cs =>
  if s.isPrefixOf cs then some ((), cs.drop s.length) else none

/-- Reads one character that `p` holds of. -/
def readIf (p : Char → Bool) : Reader Char
  | c :: cs => if p c then some (c, cs) else none
  | [] => none

/-- Reads as often as it can. -/
def many {α : Type} (read : Reader α) (cs : List Char) : List α × List Char :=
  match read cs with
  | none => ([], cs)
  | some (a, rest) =>
    if rest.length < cs.length then
      let (as, last) := many read rest
      (a :: as, last)
    else ([], cs)
termination_by cs.length

/-- Reads values with separators between them, at least one. -/
def separated {α : Type} (sep : Reader Unit) (read : Reader α) : Reader (List α) := fun cs => do
  let (a, cs) ← read cs
  let (as, cs) := many (fun cs => (sep cs).bind fun (_, cs) => read cs) cs
  return (a :: as, cs)

/-- Reads in at most `n` steps that hand on a state, up to the one that gives the value. -/
def inStepsUpTo {σ α : Type} (step : σ → Reader (σ ⊕ α)) : Nat → σ → Reader α
  | 0, _, _ => none
  | n + 1, s, cs =>
    match step s cs with
    | none => none
    | some (.inr a, rest) => some (a, rest)
    | some (.inl s, rest) => inStepsUpTo step n s rest

/-- Reads in steps of which all but the last consume something. -/
def inSteps {σ α : Type} (step : σ → Reader (σ ⊕ α)) (s : σ) : Reader α := fun cs =>
  inStepsUpTo step (cs.length + 1) s cs

theorem readChar_eq_some {c : Char} {cs rest : List Char} {u : Unit} :
    readChar c cs = some (u, rest) ↔ cs = c :: rest := by
  cases cs with
  | nil => simp [readChar]
  | cons d cs =>
    by_cases h : d = c <;> simp [readChar, h]

end SocketRelay.Text
