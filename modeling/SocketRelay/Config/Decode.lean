import SocketRelay.Net.Endpoint
import SocketRelay.Text.Quoted
import SocketRelay.Toml.Value

/-!
# Reading values of a document

A decoder reads a value as what a setting must hold. `record` reads a table by
its keys, in the order of the document: an unknown key counts for nothing, the
first value that does not fit is the error. A record may also be written as an
array of its values in the order of its fields.
-/

namespace SocketRelay.Config

open Net Text Toml

/-- What a value should have been. -/
inductive Expected where
  | port
  | seconds
  | capacity
  | flag
  | text
  | path
  | address
  | sequence
  | record (name : String)
  deriving DecidableEq, Repr

namespace Expected

def name : Expected → String
  | port => "u16"
  | seconds => "u64"
  | capacity => "usize"
  | flag => "a boolean"
  | text => "a string"
  | path => "path string"
  | address => "IP address"
  | sequence => "a sequence"
  | record name => s!"struct {name}"

end Expected

/-- Why a document is not a configuration. -/
inductive DecodeError where
  | wrongType (found : Value) (expected : Expected)
  | outOfRange (n : Int64) (expected : Expected)
  | badAddress
  | unknownChoice (found : String) (choices : List String)
  /-- A choice must be a string, or a table that names it by its key. -/
  | notAChoice
  | emptyChoice
  | severalChoices
  /-- The key of a choice must have an empty table or array as its value. -/
  | choicePayload (found : Value)
  | missing (key : String)
  /-- An array ends before the item at `index`, which has no default. -/
  | tooShort (index : Nat) (expected : Expected) (size : Nat)

namespace DecodeError

/-- A value as messages show it. -/
def describe : Value → String
  | .string s => s!"string {quote s}"
  | .integer n => s!"integer \x60{n}\x60"
  | .float x => s!"floating point \x60{x}\x60"
  | .boolean b => s!"boolean \x60{b}\x60"
  | .array _ | .tables _ => "sequence"
  | .table _ | .datetime _ => "map"

/-- The kind of a value. -/
def kind : Value → String
  | .string _ => "string"
  | .integer _ => "integer"
  | .float _ => "float"
  | .boolean _ => "boolean"
  | .datetime _ => "datetime"
  | .array _ => "array"
  | .table _ => "table"
  | .tables _ => "array of tables"

/-- The choices there are. -/
def choiceList : List String → String
  | [a] => s!"\x60{a}\x60"
  | [a, b] => s!"\x60{a}\x60 or \x60{b}\x60"
  | choices => "one of " ++ ", ".intercalate (choices.map fun c => s!"\x60{c}\x60")

def message : DecodeError → String
  | wrongType found expected => s!"invalid type: {describe found}, expected {expected.name}"
  | outOfRange n expected => s!"invalid value: integer \x60{n}\x60, expected {expected.name}"
  | badAddress => "invalid IP address syntax"
  | unknownChoice found choices =>
    s!"unknown variant \x60{found}\x60, expected {choiceList choices}"
  | notAChoice => "wanted string or table"
  | emptyChoice => "wanted exactly 1 element, found 0 elements"
  | severalChoices => "wanted exactly 1 element, more than 1 element"
  | choicePayload (.table _) | choicePayload (.array _) => "expected empty table"
  | choicePayload (.tables _) => "expected empty array"
  | choicePayload found => s!"expected table, found {kind found}"
  | missing key => s!"missing field \x60{key}\x60"
  | tooShort index expected size =>
    s!"invalid length {index}, expected {expected.name} with {size} elements"

end DecodeError

abbrev Decoder (α : Type) := Value → Except DecodeError α

/-! ## Scalars -/

def port : Decoder UInt16
  | .integer n =>
    if 0 ≤ n ∧ n ≤ 65535 then .ok n.toInt.toNat.toUInt16 else .error (.outOfRange n .port)
  | v => .error (.wrongType v .port)

/-- A number that is not negative. -/
def natural (expected : Expected) : Decoder UInt64
  | .integer n =>
    if 0 ≤ n then .ok n.toInt.toNat.toUInt64 else .error (.outOfRange n expected)
  | v => .error (.wrongType v expected)

def flag : Decoder Bool
  | .boolean b => .ok b
  | v => .error (.wrongType v .flag)

def string (expected : Expected) : Decoder String
  | .string s => .ok s
  | v => .error (.wrongType v expected)

def address : Decoder IpAddress
  | .string s =>
    match IpAddress.parse? s with
    | some ip => .ok ip
    | none => .error .badAddress
  | v => .error (.wrongType v .address)

/-! ## Choices -/

def choiceNamed {α : Type} (choices : List (String × α)) (name : String) :
    Except DecodeError α :=
  match choices.lookup name with
  | some a => .ok a
  | none => .error (.unknownChoice name (choices.map (·.1)))

/-- Whether a value holds nothing that could go with the name of a choice. -/
def isEmptyPayload : Value → Bool
  | .table entries => entries.isEmpty
  | .array items => items.isEmpty
  | .tables items => items.isEmpty
  | _ => false

/-- One of some named values: its name, or a table with its name as the only key. -/
def choice {α : Type} (choices : List (String × α)) : Decoder α
  | .string s => choiceNamed choices s
  | .table [] => .error .emptyChoice
  | .table [(name, payload)] => do
    let a ← choiceNamed choices name
    if isEmptyPayload payload then .ok a else .error (.choicePayload payload)
  | .table _ => .error .severalChoices
  | _ => .error .notAChoice

/-! ## Lists and records -/

def list {α : Type} (item : Decoder α) : Decoder (List α)
  | .array items => items.mapM item
  | .tables items => items.mapM fun entries => item (.table entries)
  | v => .error (.wrongType v .sequence)

/-- A field of a record that is built by setting one field after the other. -/
structure Field (σ : Type) where
  key : String
  set : Value → σ → Except DecodeError σ

/-- A field that holds what `decode` reads. -/
def Field.of {σ α : Type} (key : String) (decode : Decoder α) (put : α → σ → σ) : Field σ :=
  ⟨key, fun v s => (decode v).map (put · s)⟩

/-- Sets the field of one entry; an entry of no field counts for nothing. -/
def setEntry {σ : Type} (fields : List (Field σ)) (s : σ) (entry : String × Value) :
    Except DecodeError σ :=
  match fields.find? (·.key == entry.1) with
  | some f => f.set entry.2 s
  | none => .ok s

/-- Sets the fields of a table's entries, in their order. -/
def ofTable {σ : Type} (fields : List (Field σ)) (start : σ) (entries : Table) :
    Except DecodeError σ :=
  entries.foldlM (setEntry fields) start

/-- Sets fields to the items of an array, in the order of the fields. Items without a field count
for nothing. -/
def ofItems {σ : Type} (fields : List (Field σ)) (start : σ) (items : List Value) :
    Except DecodeError σ :=
  (fields.zip items).foldlM (fun s (f, v) => f.set v s) start

/-- A record in any of its forms. A moment has no entry of any field. -/
def record {σ : Type} (name : String) (fields : List (Field σ)) (start : σ) : Decoder σ
  | .table entries => ofTable fields start entries
  | .datetime _ => .ok start
  | .array items => ofItems fields start items
  | .tables items => ofItems fields start (items.map .table)
  | v => .error (.wrongType v (.record name))

end SocketRelay.Config
