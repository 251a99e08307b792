import SocketRelay.Event
import SocketRelay.Log.Settings
import SocketRelay.Text.Quoted

/-!
# Log records

A record is a level, a message and named values about some part of the program.
`lines` writes it in one of the formats, after the time if there is a clock.
Only JSON tells all control characters apart; the text formats show those that
would steer a terminal as escapes.
-/

namespace SocketRelay.Log

open Text

/-- A named value of a record. -/
structure Field where
  name : String
  value : String
  /-- Whether text formats quote the value. -/
  quoted : Bool := false
  deriving DecidableEq, Repr

/-- The part of the program that a record is about. -/
inductive Origin where
  /-- A run as a whole. -/
  | program
  | configuration
  | relay
  deriving DecidableEq, Repr

/-- The name by which filters know a part of the program. -/
def Origin.target : Origin → String
  | program => "r0n_relay"
  | configuration => "r0n_relay::config::loader"
  | relay => "r0n_relay::logging::sink"

structure Record where
  origin : Origin
  level : Level
  message : String
  fields : List Field := []
  deriving DecidableEq, Repr

/-- The names of all values of a record. Its message is one of them. -/
def Record.fieldNames (r : Record) : List String := "message" :: r.fields.map (·.name)

/-- An event as a record that is labelled with its route. -/
def Record.ofEvent (route : Option String) (e : Event) : Record :=
  ⟨.relay, e.level, e.line, [⟨"route", route.getD "-", true⟩, ⟨"kind", e.kind, true⟩]⟩

/-! ## Text formats -/

/-- A character of a message, shown as an escape if it could steer a terminal. -/
def visibleChar (c : Char) : List Char :=
  let n := c.toNat
  let hex := Nat.toDigits 16 n
  if n ∈ [0x1B, 0x7F] then ['\\', 'x'] ++ hex
  else if n ∈ [0x07, 0x08, 0x0C] then ['\\', 'x', '0'] ++ hex
  else if 0x80 ≤ n ∧ n ≤ 0x9F then ['\\', 'u', '\x7b'] ++ hex ++ ['\x7d']
  else [c]

def visible (s : String) : String := String.ofList (s.toList.flatMap visibleChar)

def Field.text (f : Field) : String := if f.quoted then quote f.value else f.value

/-- The level with the time before it. Behind a time, levels are set flush right. -/
def Record.stamp (r : Record) : Option String → String
  | none => r.level.label
  | some time =>
    let blanks := if r.level.label.length < 5 then "  " else " "
    s!"{time}{blanks}{r.level.label}"

def Record.compact (r : Record) (time : Option String) : String :=
  " ".intercalate ([r.stamp time, visible r.message] ++
    r.fields.map fun f => s!"{f.name}={f.text}")

def Record.pretty (r : Record) (time : Option String) : String :=
  ", ".intercalate (s!"{r.stamp time} {visible r.message}" ::
    r.fields.map fun f => s!"{f.name}: {f.text}")

/-! ## JSON -/

/-- A character inside a JSON string. -/
def jsonChar (c : Char) : List Char :=
  match c with
  | '"' => ['\\', '"']
  | '\\' => ['\\', '\\']
  | '\n' => ['\\', 'n']
  | '\r' => ['\\', 'r']
  | '\t' => ['\\', 't']
  | '\x08' => ['\\', 'b']
  | '\x0c' => ['\\', 'f']
  | c =>
    let n := c.toNat
    if n < 0x10 then ['\\', 'u', '0', '0', '0'] ++ Nat.toDigits 16 n
    else if n < 0x20 then ['\\', 'u', '0', '0'] ++ Nat.toDigits 16 n
    else [c]

def jsonString (s : String) : String :=
  String.ofList ('"' :: s.toList.flatMap jsonChar ++ ['"'])

/-- An object of texts with its keys in order. -/
def jsonObject (entries : List (String × String)) : String :=
  let sorted := entries.mergeSort fun a b => decide (a.1 ≤ b.1)
  "\x7b" ++ ",".intercalate (sorted.map fun (k, v) => s!"{jsonString k}:{v}") ++ "\x7d"

def Record.json (r : Record) (time : Option String) : String :=
  let fields := ("message", jsonString r.message) ::
    r.fields.map fun f => (f.name, jsonString f.value)
  jsonObject ([("fields", jsonObject fields), ("level", jsonString r.level.label)] ++
    time.toList.map fun t => ("timestamp", jsonString t))

def Record.lines (r : Record) (time : Option String) : Format → List String
  | .json => [r.json time]
  | .compact => (r.compact time).splitOn "\n"
  | .pretty => (r.pretty time).splitOn "\n" ++ [""]

end SocketRelay.Log
