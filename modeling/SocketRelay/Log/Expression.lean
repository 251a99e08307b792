import SocketRelay.Log.Expression.Class
import SocketRelay.Text.Alphanumeric
import SocketRelay.Text.Split

/-!
# Regular expressions

Which texts are regular expressions. An expression is read from left to right:
the groups that are open form a stack, and of what is closed only the depth is
kept, which is bounded. Counted repetitions are not known.
-/

namespace SocketRelay.Log.Expression

open Text

/-- How deep an expression may nest. -/
def maxDepth : Nat := 250

/-! ## Groups -/

/-- A group of which the end is not read, or the whole expression. -/
structure OpenGroup where
  /-- The flags around it. -/
  around : Flags := {}
  branches : Parts := {}
  /-- What is read of the last branch. -/
  items : Parts := {}
  /-- How deep the last item nests, if there is one that can be repeated. -/
  last : Option Nat := none
  deriving DecidableEq, Repr

namespace OpenGroup

def add (g : OpenGroup) (depth : Nat) : OpenGroup :=
  { g with items := g.items.add depth, last := some depth }

/-- The group after flags, which are no item to repeat. -/
def addFlags (g : OpenGroup) : OpenGroup := { g with items := g.items.add 0, last := none }

/-- The group with its last item repeated. -/
def repeatLast? (g : OpenGroup) : Option OpenGroup :=
  g.last.map fun depth =>
    { g with
      items := { g.items with deepest := max g.items.deepest (depth + 1) }
      last := some (depth + 1) }

/-- The group with a new branch. -/
def alternate (g : OpenGroup) : OpenGroup :=
  { around := g.around, branches := g.branches.add g.items.depth }

def depth (g : OpenGroup) : Nat := (g.branches.add g.items.depth).depth

end OpenGroup

/-- An expression of which the end is not read. -/
structure Reading where
  /-- The flags in force. -/
  flags : Flags := {}
  /-- The names of groups so far. -/
  names : List (List Char) := []
  /-- The innermost open group. -/
  group : OpenGroup := {}
  /-- The open groups around it. -/
  outer : List OpenGroup := []

namespace Reading

def setGroup (r : Reading) (g : OpenGroup) : Reading := { r with group := g }

/-- Opens a group with these flags. -/
def enter (r : Reading) (f : Flags) : Reading :=
  { r with flags := f, group := { around := r.flags }, outer := r.group :: r.outer }

/-- Closes a group, if one is open. -/
def leave? (r : Reading) : Option Reading :=
  match r.outer with
  | [] => none
  | g :: outer =>
    some { r with flags := r.group.around, group := g.add (r.group.depth + 1), outer }

/-! ## What a parenthesis opens -/

/-- Whether a text can be the name of a group. -/
def isName : List Char → Bool
  | [] => false
  | c :: cs =>
    (c = '_' || isAlphabetic c) && cs.all fun c => c ∈ ['_', '.', '[', ']'] || isAlphanumeric c

/-- Opens a group with a name, which ends at an angle bracket. -/
def openNamed (r : Reading) : Reader Reading := fun cs =>
  let name := cs.takeWhile (· ≠ '>')
  match cs.dropWhile (· ≠ '>') with
  | _ :: rest =>
    if isName name && name ∉ r.names then
      some ({ r with names := name :: r.names }.enter r.flags, rest)
    else none
  | [] => none

/-- The letters of flags. -/
def flagLetters : List Char := ['i', 'm', 's', 'U', 'u', 'R', 'x']

/-- The flags with the letters before a hyphen turned on and those after it turned off. -/
def turned? (f : Flags) (letters : List Char) : Option Flags :=
  if !letters.Nodup || !letters.all (fun c => c = '-' || c ∈ flagLetters) then none
  else
    match splitFirst '-' letters with
    | none => some (f.turn letters true)
    | some (_, []) => none
    | some (on, off) => some ((f.turn on true).turn off false)

/-- Reads flags: for a group if a colon ends them, else for what follows in the group around. -/
def openFlags (r : Reading) : Reader Reading := fun cs => do
  let letters := cs.takeWhile (· ∉ [':', ')'])
  let f ← turned? r.flags letters
  match cs.dropWhile (· ∉ [':', ')']) with
  | ':' :: rest => some (r.enter f, rest)
  | ')' :: rest =>
    if letters = [] then none else some ({ r with flags := f, group := r.group.addFlags }, rest)
  | _ => none

/-- Reads on after an opening parenthesis. One cannot look ahead or behind. -/
def openGroup (r : Reading) : Reader Reading := fun cs =>
  match r.flags.pass cs with
  | '?' :: '=' :: _ | '?' :: '!' :: _ | '?' :: '<' :: '=' :: _ | '?' :: '<' :: '!' :: _ => none
  | '?' :: 'P' :: '<' :: cs | '?' :: '<' :: cs => r.openNamed cs
  | '?' :: cs => r.openFlags cs
  | cs => some (r.enter r.flags, cs)

/-! ## Whole expressions -/

/-- One step of an expression. The value at its end is how deep it nests. -/
def step (r : Reading) : Reader (Reading ⊕ Nat) := fun cs =>
  match r.flags.pass cs with
  | [] => if r.outer.isEmpty then some (.inr r.group.depth, []) else none
  | '(' :: cs => (r.openGroup cs).map fun (r, cs) => (.inl r, cs)
  | ')' :: cs => r.leave?.map fun r => (.inl r, cs)
  | '|' :: cs => some (.inl (r.setGroup r.group.alternate), cs)
  | '[' :: cs =>
    (readClass r.flags cs).map fun (depth, cs) => (.inl (r.setGroup (r.group.add depth)), cs)
  | '\x7b' :: _ => none
  | '*' :: '?' :: cs | '+' :: '?' :: cs | '?' :: '?' :: cs
  | '*' :: cs | '+' :: cs | '?' :: cs =>
    r.group.repeatLast?.map fun g => (.inl (r.setGroup g), cs)
  | cs => do
    let (p, cs) ← Primitive.read r.flags cs
    if p.isUsable r.flags then some (.inl (r.setGroup (r.group.add 0)), cs) else none

end Reading

/-- How deep the expression nests that a text is, if it is one. -/
def depth? (cs : List Char) : Option Nat := (inSteps Reading.step {} cs).map (·.1)

end Expression

/-- Whether a text is a regular expression. -/
def isExpression (cs : List Char) : Bool :=
  (Expression.depth? cs).any (· ≤ Expression.maxDepth)

end SocketRelay.Log
