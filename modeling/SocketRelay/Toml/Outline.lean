import SocketRelay.Toml.Value

/-!
# Outlines

A document under construction. Beside the values it knows how each table came
about, because that decides what may still be added to it: a table of dotted
keys takes more dotted keys, and a table that only the headers of its subtables
named may still get a header of its own.
-/

namespace SocketRelay.Toml

/-- How a table came about. -/
inductive Origin where
  /-- It has a header of its own, or is an element of an array of tables. -/
  | header
  /-- It was named by the header of a table inside it. -/
  | parent
  /-- It was named by dotted keys. -/
  | dotted
  deriving DecidableEq, Repr

inductive Node where
  | value (v : Value)
  | table (origin : Origin) (entries : List (String × Node))
  | tables (items : List (List (String × Node)))

/-- Where a key is: the tables that lead to it, and its name. -/
structure KeyPath where
  parents : List String
  name : String
  deriving DecidableEq, Repr

abbrev Outline := List (String × Node)

namespace Outline

/-- The outline with the node of `key` replaced. -/
def replace (o : Outline) (key : String) (n : Node) : Outline :=
  o.map fun (k, m) => if k = key then (k, n) else (k, m)

def erase (o : Outline) (key : String) : Outline := o.filter (·.1 ≠ key)

/-- Changes the table that a path leads to, and makes the tables of the path that are missing.
Through an array of tables the path leads into the last element. Dotted keys do not lead into a
table with a header of its own. -/
def edit {α : Type} (dotted : Bool) (change : Origin → Outline → Option (α × Outline)) :
    List String → Origin → Outline → Option (α × Outline)
  | [], origin, o => change origin o
  | key :: path, _, o =>
    match o.lookup key with
    | none => do
      let origin := if dotted then .dotted else .parent
      let (a, inner) ← edit dotted change path origin []
      return (a, o ++ [(key, .table origin inner)])
    | some (.value _) => none
    | some (.tables items) => do
      let (a, inner) ← edit dotted change path .header (← items.getLast?)
      return (a, o.replace key (.tables (items.dropLast ++ [inner])))
    | some (.table origin inner) =>
      if dotted ∧ origin = .header then none
      else do
        let (a, inner) ← edit dotted change path origin inner
        return (a, o.replace key (.table origin inner))

/-- Adds a value under a key, which must be new. -/
def insert (o : Outline) (path : KeyPath) (v : Value) : Option Outline :=
  let add : Origin → Outline → Option (Unit × Outline) := fun origin o =>
    if (path.parents ≠ [] ∧ origin ≠ .dotted) ∨ (o.lookup path.name).isSome then none
    else some ((), o ++ [(path.name, .value v)])
  (edit true add path.parents .header o).map (·.2)

/-- Adds values one after the other. -/
def ofPairs (pairs : List (KeyPath × Value)) : Option Outline :=
  pairs.foldlM (fun o (path, v) => o.insert path v) []

/-- Takes out the table that a header reopens. It must be new or named by subtables only. -/
def reopen (o : Outline) (path : KeyPath) : Option (Outline × Outline) :=
  edit false
    (fun _ o =>
      match o.lookup path.name with
      | none => some ([], o)
      | some (.table .parent inner) => some (inner, o.erase path.name)
      | some _ => none)
    path.parents .header o

/-- Makes room for a new element of an array of tables. -/
def reserve (o : Outline) (path : KeyPath) : Option Outline :=
  let open? : Origin → Outline → Option (Unit × Outline) := fun _ o =>
    match o.lookup path.name with
    | none => some ((), o ++ [(path.name, .tables [])])
    | some (.tables _) => some ((), o)
    | some _ => none
  (edit false open? path.parents .header o).map (·.2)

/-- Puts a finished table under its header, which must be free. -/
def close (o : Outline) (path : KeyPath) (table : Outline) : Option Outline :=
  let put : Origin → Outline → Option (Unit × Outline) := fun _ o =>
    match o.lookup path.name with
    | none => some ((), o ++ [(path.name, .table .header table)])
    | some _ => none
  (edit false put path.parents .header o).map (·.2)

/-- Puts a finished table at the end of its array of tables. -/
def push (o : Outline) (path : KeyPath) (table : Outline) : Option Outline :=
  let put : Origin → Outline → Option (Unit × Outline) := fun _ o =>
    match o.lookup path.name with
    | none => some ((), o ++ [(path.name, .tables [table])])
    | some (.tables items) => some ((), o.replace path.name (.tables (items ++ [table])))
    | some _ => none
  (edit false put path.parents .header o).map (·.2)

end Outline

/-! ## The values of an outline -/

mutual

def Node.toValue : Node → Value
  | .value v => v
  | .table _ entries => .table (tableOf entries)
  | .tables items => .tables (tablesOf items)

/-- The table an outline describes. -/
def tableOf : List (String × Node) → Table
  | [] => []
  | (key, n) :: rest => (key, n.toValue) :: tableOf rest

def tablesOf : List (List (String × Node)) → List Table
  | [] => []
  | entries :: rest => tableOf entries :: tablesOf rest

end

end SocketRelay.Toml
