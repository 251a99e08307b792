import SocketRelay.Log.Pattern
import SocketRelay.Log.Record
import SocketRelay.Text.Alphanumeric
import SocketRelay.Text.Blank
import SocketRelay.Text.Bytes
import SocketRelay.Text.Split

/-!
# Filters

A filter is a list of directives with commas between them. A directive sets the
least level of the records that it concerns: those of a target, those with a
field, or all. Of the directives that concern a record the most specific one
decides; a record that none concerns does not pass. A filter that cannot be
read is refused as a whole.
-/

namespace SocketRelay.Log

open Text

structure Directive where
  /-- How the targets it concerns begin. -/
  target : List Char := []
  /-- The name of a field that a record must have. -/
  field : Option (List Char) := none
  /-- Whether it is for what happens in certain spans. No record is in a span. -/
  onSpans : Bool := false
  /-- The least level, if any level passes. -/
  least : Option Level := some .trace
  deriving DecidableEq, Repr

abbrev Filter := List Directive

/-! ## Levels -/

/-- The thresholds by name. -/
def thresholds : List (String × Option Level) :=
  ("off", none) :: Level.keys.map fun (key, l) => (key, some l)

/-- The thresholds by number. -/
def numberedThresholds : List (Nat × Option Level) :=
  [(0, none), (1, some .error), (2, some .warn), (3, some .info), (4, some .debug),
    (5, some .trace)]

/-- A threshold by its number, or by its name in any mixture of ASCII case. -/
def threshold? (cs : List Char) : Option (Option Level) :=
  match (decimal? cs).bind fun n => numberedThresholds.lookup n with
  | some l => some l
  | none => thresholds.lookup (String.ofList cs).toLower

/-! ## Reading a directive

The marks of a directive are looked for in its text without the blanks around
it, but its parts are cut out of the whole text, as many bytes in. So blanks in
front of a directive shift its parts, and those at its end belong to the last. -/

/-- What is left to read of a directive. -/
structure Remainder where
  /-- What the marks are looked for in. -/
  seen : List Char
  /-- What the parts are cut out of. -/
  whole : List Char

namespace Remainder

/-- Cuts off as much as `cs` takes. -/
def cut (r : Remainder) (cs : List Char) : Option (List Char × Remainder) :=
  (cutBytes (byteLength cs) r.whole).map fun (part, whole) =>
    (part, ⟨r.seen.drop cs.length, whole⟩)

/-- Passes over the mark in front. -/
def pass (r : Remainder) : Option Remainder := (r.cut (r.seen.take 1)).map (·.2)

/-- The part before the first of some marks, that mark, and what is left after it. -/
def upTo (r : Remainder) (marks : List Char) : Option (List Char × Char × Remainder) := do
  let (part, r) ← r.cut (r.seen.takeWhile (· ∉ marks))
  let mark ← r.seen.head?
  return (part, mark, ← r.pass)

end Remainder

namespace Directive

/-- Whether a directive may start so, if not with a bracket. -/
def mayStart (c : Char) : Bool := c ∈ ['-', ':', '_'] || isAlphanumeric c

/-- Sets the level to what is left. -/
def withLevel (d : Directive) (cs : List Char) : Option Directive :=
  if cs = [] then some d else (threshold? cs).map fun least => { d with least }

/-- Sets the field to a name, perhaps with a pattern for its value. -/
def withField (d : Directive) (cs : List Char) : Option Directive :=
  match splitAll '=' cs with
  | [[]] => none
  | name :: pattern :: _ =>
    if isPattern pattern then some { d with field := some name, onSpans := true } else none
  | name :: [] => some { d with field := some name }
  | [] => none

/-- Reads on after the closing bracket. -/
def afterBrackets (d : Directive) (r : Remainder) : Option Directive :=
  match r.seen with
  | [] => some d
  | '=' :: _ => do d.withLevel (← r.pass).whole
  | _ => none

/-- Reads on after the opening bracket: the name of a span, and a field in braces. -/
def inBrackets (d : Directive) (r : Remainder) : Option Directive := do
  let (name, mark, r) ← r.upTo [']', '\x7b']
  if mark = ']' then afterBrackets { d with onSpans := true } r
  else
    let (field, _, r) ← r.upTo ['\x7d']
    let d ← withField { d with onSpans := name ≠ [] } field
    if r.seen.head? = some ']' then afterBrackets d (← r.pass) else none

/-- A directive: a level, or a target, brackets and a level as far as they are there. -/
def parse? (cs : List Char) : Option Directive :=
  let r : Remainder := ⟨trim cs, cs⟩
  match r.seen with
  | [] => none
  | '[' :: _ => do inBrackets {} (← r.pass)
  | c :: _ =>
    if !mayStart c then none
    else if '=' ∉ r.seen ∧ '[' ∉ r.seen then
      some (((threshold? cs).map fun least => { least }).getD { target := cs })
    else do
      let (target, mark, r) ← r.upTo ['=', '[']
      if mark = '[' then inBrackets { target } r else withLevel { target } r.whole

/-! ## Deciding -/

/-- Whether a directive concerns a record. -/
def concerns (d : Directive) (r : Record) : Bool :=
  !d.onSpans && d.target.isPrefixOf r.origin.target.toList &&
    d.field.all fun field => r.fieldNames.any (·.toList == field)

/-- Whether a directive is at most as specific as another: a longer target counts more than a
field, and of two fields the one later in order. -/
def atMost (a b : Directive) : Bool :=
  if a.target.length = b.target.length then
    match a.field, b.field with
    | none, _ => true
    | some _, none => false
    | some f, some g => String.ofList f ≤ String.ofList g
  else a.target.length < b.target.length

def passes (d : Directive) (l : Level) : Bool := d.least.any fun least => least.rank ≤ l.rank

end Directive

namespace Filter

/-- The filter that lets records of a level and above pass. -/
def ofLevel (l : Level) : Filter := [{ least := some l }]

/-- The filter a text writes. An empty text is a filter that nothing passes. -/
def parse? (s : String) : Option Filter :=
  ((splitAll ',' s.toList).filter (· ≠ [])).mapM Directive.parse?

/-- The directive that decides on a record: the most specific, of two the later. -/
def directive? (f : Filter) (r : Record) : Option Directive :=
  (f.filter (·.concerns r)).foldl
    (fun best d => if best.all (·.atMost d) then some d else best) none

def passes (f : Filter) (r : Record) : Bool := (f.directive? r).any (·.passes r.level)

/-- The filter of the environment if it can be read, else the configured level. -/
def choose (environment : Option String) (level : Level) : Filter :=
  (environment.bind parse?).getD (ofLevel level)

end Filter

end SocketRelay.Log
