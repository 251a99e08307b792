import SocketRelay.Log.Expression.Primitive

/-!
# Classes of characters

A class lists in brackets which characters match: characters, ranges, sets with
a name, and other classes. Operators take the common, the different or the
exclusive characters of what stands to their left and right.
-/

namespace SocketRelay.Log.Expression

open Text

/-- Parts that stand next to each other. -/
structure Parts where
  count : Nat := 0
  /-- How deep the deepest part nests. -/
  deepest : Nat := 0
  deriving DecidableEq, Repr

namespace Parts

def add (p : Parts) (depth : Nat) : Parts := ⟨p.count + 1, max p.deepest depth⟩

/-- How deep they nest: a part that stands alone adds no level. -/
def depth (p : Parts) : Nat := if p.count < 2 then p.deepest else p.deepest + 1

end Parts

/-- A class of which the end is not read. -/
structure OpenClass where
  /-- How deep the operands before the last operator nest, if there is one. -/
  left : Option Nat := none
  /-- What is read of the last operand. -/
  items : Parts := {}
  deriving DecidableEq, Repr

namespace OpenClass

def add (c : OpenClass) (depth : Nat) : OpenClass := { c with items := c.items.add depth }

def depth (c : OpenClass) : Nat :=
  match c.left with
  | some left => max left c.items.depth + 1
  | none => c.items.depth

/-- The class after an operator. -/
def operate (c : OpenClass) : OpenClass := { left := some c.depth }

/-- Reads on after the opening bracket. Hyphens in front stand for themselves, and if there is none
a closing bracket does. -/
def read (f : Flags) : Reader OpenClass := fun cs => do
  let (carets, cs) := match f.pass cs with
    | '^' :: cs => (1, cs)
    | cs => (0, cs)
  let (hyphens, cs) := many (fun cs => readChar '-' (f.pass cs)) cs
  let (literals, cs) := match hyphens, f.pass cs with
    | [], ']' :: cs => (1, cs)
    | _, cs => (hyphens.length, cs)
  if 0 < carets && !f.unicode then none
  else if 0 < literals && !(Primitive.literal '-' false).isUsableInClass f then none
  else some ({ items := ⟨literals, 0⟩ }, cs)

end OpenClass

/-! ## Items -/

/-- The words for sets of ASCII characters. -/
def setWords : List String :=
  ["alnum", "alpha", "ascii", "blank", "cntrl", "digit", "graph", "lower", "print", "punct",
    "space", "upper", "word", "xdigit"]

/-- Reads a set of ASCII characters after its opening bracket: its word between colons. -/
def readWordSet : Reader Primitive
  | ':' :: cs =>
    let (negated, cs) := match cs with
      | '^' :: cs => (true, cs)
      | cs => (false, cs)
    match cs.dropWhile (· ≠ ':') with
    | ':' :: ']' :: rest =>
      if String.ofList (cs.takeWhile (· ≠ ':')) ∈ setWords then some (.wordSet negated, rest)
      else none
    | _ => none
  | _ => none

/-- The character that decides whether a hyphen before it makes a range. Of a comment it is the
first character that is no blank. -/
def afterHyphen? (f : Flags) (cs : List Char) : Option Char :=
  if f.spaced then
    match cs.dropWhile isBlank with
    | '#' :: cs => (cs.dropWhile isBlank).head?
    | cs => cs.head?
  else cs.head?

/-- Whether a range from one primitive to another can be used. -/
def isUsableRange (f : Flags) : Primitive → Primitive → Bool
  | .literal a c, .literal b d =>
    a ≤ b && (Primitive.literal a c).isUsableInClass f && (Primitive.literal b d).isUsableInClass f
  | _, _ => false

/-- Reads a primitive or a range. -/
def readRange (f : Flags) : Reader Unit := fun cs => do
  let (first, cs) ← Primitive.readInClass f cs
  let single (rest : List Char) := if first.isUsableInClass f then some ((), rest) else none
  match f.pass cs with
  | '-' :: rest =>
    if afterHyphen? f rest ∈ [some ']', some '-'] then single ('-' :: rest)
    else do
      let (last, rest) ← Primitive.readInClass f (f.pass rest)
      if isUsableRange f first last then some ((), rest) else none
  | rest => single rest

/-! ## Classes in classes -/

/-- One step in a class: an item, an operator or a bracket. Of a class with others around it the
innermost is first. The value is how deep the outermost nests. -/
def stepInClass (f : Flags) (s : OpenClass × List OpenClass) :
    Reader ((OpenClass × List OpenClass) ⊕ Nat) := fun cs =>
  let (c, around) := s
  match f.pass cs with
  | [] => none
  | ']' :: cs =>
    match around with
    | [] => some (.inr (c.depth + 1), cs)
    | d :: around => some (.inl (d.add (c.depth + 1), around), cs)
  | '[' :: cs =>
    match readWordSet cs with
    | some (set, cs) => if set.isUsableInClass f then some (.inl (c.add 0, around), cs) else none
    | none => (OpenClass.read f cs).map fun (inner, cs) => (.inl (inner, c :: around), cs)
  | '&' :: '&' :: cs | '-' :: '-' :: cs | '~' :: '~' :: cs => some (.inl (c.operate, around), cs)
  | cs => (readRange f cs).map fun ((), cs) => (.inl (c.add 0, around), cs)

/-- Reads a class after its opening bracket. The value is how deep it nests. -/
def readClass (f : Flags) : Reader Nat := fun cs => do
  let (c, cs) ← OpenClass.read f cs
  inSteps (stepInClass f) (c, []) cs

end SocketRelay.Log.Expression
