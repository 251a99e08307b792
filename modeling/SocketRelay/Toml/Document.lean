import SocketRelay.Toml.Moment
import SocketRelay.Toml.Number
import SocketRelay.Toml.Outline
import SocketRelay.Toml.Quoted

/-!
# Documents

A document is a list of lines, each blank, a pair of a key and a value, or a
header. `parse?` reads the lines and builds the table they describe; it refuses
a text that is not valid TOML, for whatever reason.
-/

namespace SocketRelay.Toml

open Text

/-- How deep values may be nested, and how many parts a dotted key may have. -/
def nestingLimit : Nat := 79

/-! ## Keys -/

def isBareKeyChar (c : Char) : Bool :=
  c.isAlphanum || c == '_' || c == '-'

def readSimpleKey : Reader String := fun cs =>
  match cs with
  | '"' :: _ => readBasic cs
  | '\'' :: _ => readLiteral cs
  | _ => (readRun isBareKeyChar cs).map fun (key, cs) => (String.ofList key, cs)

/-- Reads keys with points between them. -/
def readKeyPath : Reader KeyPath := fun cs => do
  let spaced : Reader String := fun cs => do
    let (key, cs) ← readSimpleKey (skipSpace cs)
    return (key, skipSpace cs)
  let (keys, cs) ← separated (readChar '.') spaced cs
  if nestingLimit < keys.length then none
  else return (⟨keys.dropLast, ← keys.getLast?⟩, cs)

/-! ## Values -/

def readScalar : Reader Value := fun cs =>
  match cs with
  | [] => none
  | c :: _ =>
    if c = '"' ∨ c = '\'' then (readString cs).map fun (s, cs) => (.string s, cs)
    else if c = 't' then (readText "true".toList cs).map fun ((), cs) => (.boolean true, cs)
    else if c = 'f' then (readText "false".toList cs).map fun ((), cs) => (.boolean false, cs)
    else (readMoment cs).map (fun (m, cs) => (.datetime m, cs)) <|> readNumber cs

/-- Reads the items of an array after its opening bracket. A comma may follow the last. -/
def readItems (item : Reader Value) : Reader (List Value) := fun cs =>
  match skipBlank cs with
  | ']' :: cs => some ([], cs)
  | cs => do
    let padded : Reader Value := fun cs => do
      let (v, cs) ← item (skipBlank cs)
      return (v, skipBlank cs)
    let (items, cs) ← separated (readChar ',') padded cs
    let cs := match cs with
      | ',' :: cs => skipBlank cs
      | _ => cs
    let ((), cs) ← readChar ']' cs
    return (items, cs)

/-- Reads a key, an equals sign and a value. -/
def readPair (item : Reader Value) : Reader (KeyPath × Value) := fun cs => do
  let (path, cs) ← readKeyPath cs
  let ((), cs) ← readChar '=' cs
  let (v, cs) ← item (skipSpace cs)
  return ((path, v), skipSpace cs)

/-- Reads the pairs of an inline table after its opening brace. -/
def readPairs (item : Reader Value) : Reader (List (KeyPath × Value)) := fun cs =>
  match skipSpace cs with
  | '\x7d' :: cs => some ([], cs)
  | cs => do
    let (pairs, cs) ← separated (readChar ',') (readPair item) cs
    let ((), cs) ← readChar '\x7d' cs
    return (pairs, cs)

/-- Reads a value with at most `depth` arrays and inline tables around its scalars. -/
def readValue : Nat → Reader Value
  | 0 => readScalar
  | depth + 1 => fun cs =>
    match cs with
    | '[' :: cs => (readItems (readValue depth) cs).map fun (items, cs) => (.array items, cs)
    | '\x7b' :: cs => do
      let (pairs, cs) ← readPairs (readValue depth) cs
      let outline ← Outline.ofPairs pairs
      return (.table (tableOf outline), cs)
    | _ => readScalar cs

/-! ## Lines -/

inductive Line where
  | blank
  | pair (path : KeyPath) (v : Value)
  | header (path : KeyPath)
  /-- The header of a new element of an array of tables. -/
  | itemHeader (path : KeyPath)

/-- Reads a line with its end and the spaces before the next one. -/
def readLine : Reader Line := fun cs => do
  let (line, cs) ←
    match cs with
    | '#' :: _ | '\n' :: _ | '\r' :: _ => some (.blank, cs)
    | '[' :: '[' :: cs => do
      let (path, cs) ← readKeyPath cs
      let ((), cs) ← readText [']', ']'] cs
      some (Line.itemHeader path, cs)
    | '[' :: cs => do
      let (path, cs) ← readKeyPath cs
      let ((), cs) ← readChar ']' cs
      some (.header path, cs)
    | _ => do
      let ((path, v), cs) ← readPair (readValue nestingLimit) cs
      some (.pair path v, cs)
  let ((), cs) ← readLineEnd cs
  return (line, skipSpace cs)

/-- The lines of a text, if all of it can be read. -/
def lines? (cs : List Char) : Option (List Line) :=
  let cs := match cs with
    | '\uFEFF' :: cs => cs
    | _ => cs
  match many readLine (skipSpace cs) with
  | (lines, []) => some lines
  | _ => none

/-! ## The table of a document -/

/-- A document as far as its lines are read: all tables but the last, and the last. -/
structure Draft where
  closed : Outline := []
  current : Outline := []
  /-- The header of the last table, and whether it is an element of an array. -/
  header : Option (KeyPath × Bool) := none

namespace Draft

/-- The outline with the last table in its place. -/
def close (d : Draft) : Option Outline :=
  match d.header with
  | none => some d.current
  | some (path, true) => d.closed.push path d.current
  | some (path, false) => d.closed.close path d.current

def add (d : Draft) : Line → Option Draft
  | .blank => some d
  | .pair path v => do
    return { d with current := ← d.current.insert path v }
  | .header path => do
    let (reopened, rest) ← (← d.close).reopen path
    return ⟨rest, reopened, some (path, false)⟩
  | .itemHeader path => do
    return ⟨← (← d.close).reserve path, [], some (path, true)⟩

end Draft

/-- The table that lines describe. -/
def ofLines? (lines : List Line) : Option Table := do
  let d ← lines.foldlM Draft.add {}
  return tableOf (← d.close)

/-- The table of a document. -/
def parse? (text : String) : Option Table := do
  ofLines? (← lines? text.toList)

end SocketRelay.Toml
