import SocketRelay.Text.Blank
import SocketRelay.Text.Digits

/-!
# Primitives

The smallest parts of a regular expression: characters, sets of characters with
a name, and places in a text. Which of them can be used depends on the flags. No
property of Unicode is known, so the sets with a letter for a name are those of
bytes, and where letters match in either case they are bytes too. Bytes in turn
must not match a part of a character.
-/

namespace SocketRelay.Log.Expression

open Text

/-- The flags that decide how an expression is read. -/
structure Flags where
  /-- Letters match in either case. -/
  anyCase : Bool := false
  /-- Characters are those of Unicode, not bytes. -/
  unicode : Bool := true
  /-- Blanks and comments do not count. -/
  spaced : Bool := false
  deriving DecidableEq, Repr

namespace Flags

/-- Turns the flags with these letters on or off. -/
def turn (f : Flags) (letters : List Char) (on : Bool) : Flags where
  anyCase := if 'i' ∈ letters then on else f.anyCase
  unicode := if 'u' ∈ letters then on else f.unicode
  spaced := if 'x' ∈ letters then on else f.spaced

end Flags

/-- Passes over blanks, and over comments up to the ends of their lines. -/
def passBlanks (inComment : Bool) : List Char → List Char
  | [] => []
  | c :: cs =>
    if inComment then passBlanks (c != '\n') cs
    else if isBlank c then passBlanks false cs
    else if c = '#' then passBlanks true cs
    else c :: cs

/-- Passes over what does not count. -/
def Flags.pass (f : Flags) (cs : List Char) : List Char :=
  if f.spaced then passBlanks false cs else cs

inductive Primitive where
  /-- A character that stands for itself; `coded` if it is written as two hexadecimal digits. -/
  | literal (c : Char) (coded : Bool)
  /-- Any character but the end of a line. -/
  | dot
  /-- A set of characters with a letter for a name, or all others. -/
  | letterSet (negated : Bool)
  /-- A set of ASCII characters with a word for a name, or all others. -/
  | wordSet (negated : Bool)
  /-- The start or end of a line or text. -/
  | place
  /-- The start or end of a word. -/
  | wordPlace
  deriving DecidableEq, Repr

namespace Primitive

/-- Whether a primitive can be used outside of classes. -/
def isUsable (f : Flags) : Primitive → Bool
  | literal c coded => if f.unicode then !f.anyCase else !coded || c.toNat < 0x80
  | dot => f.unicode
  | letterSet negated => !f.unicode && !negated
  | wordSet _ => false
  | place => true
  | wordPlace => !f.unicode

/-- Whether a primitive can be used in a class. -/
def isUsableInClass (f : Flags) : Primitive → Bool
  | literal c _ => if f.unicode then !f.anyCase else c.toNat < 0x80
  | letterSet negated => !f.unicode && !negated
  | wordSet negated => if f.unicode then !f.anyCase else !negated
  | _ => false

/-! ## Reading -/

/-- The letters for control characters. -/
def controls : List (Char × Char) :=
  [('a', '\x07'), ('f', '\x0c'), ('n', '\n'), ('r', '\r'), ('t', '\t'), ('v', '\x0b')]

/-- The letters for codes of characters, and how many hexadecimal digits these have. -/
def codeLengths : List (Char × Nat) := [('x', 2), ('u', 4), ('U', 8)]

/-- The character with this code. -/
def ofCode? (n : Nat) : Option Char :=
  if n < 0xD800 ∨ 0xDFFF < n ∧ n < 0x110000 then some (Char.ofNat n) else none

/-- Reads this many hexadecimal digits. -/
def readDigits (f : Flags) : Nat → Reader (List Char)
  | 0, cs => some ([], cs)
  | n + 1, cs => do
    let (d, cs) ← readIf (isDigitIn 16) (f.pass cs)
    let (ds, cs) ← readDigits f n cs
    return (d :: ds, cs)

/-- What a letter or mark after a backslash stands for, if no digits belong to it. -/
def ofEscaped? (c : Char) : Option Primitive :=
  match controls.lookup c with
  | some control => some (.literal control false)
  | none =>
    if c ∈ ['d', 's', 'w'] then some (.letterSet false)
    else if c ∈ ['D', 'S', 'W'] then some (.letterSet true)
    else if c ∈ ['A', 'z'] then some .place
    else if c ∈ ['b', 'B', '<', '>'] then some .wordPlace
    else if c.toNat < 0x80 && !c.isAlphanum then some (.literal c false)
    else none

/-- Reads on after a backslash. -/
def readEscaped (f : Flags) : Reader Primitive
  | [] => none
  | c :: cs =>
    match codeLengths.lookup c with
    | some n => do
      let (digits, cs) ← readDigits f n cs
      return (.literal (← ofCode? (valueOf 16 digits)) (n == 2), cs)
    | none => (ofEscaped? c).map (·, cs)

/-- Reads a primitive outside of classes. -/
def read (f : Flags) : Reader Primitive
  | [] => none
  | '\\' :: cs => readEscaped f cs
  | '.' :: cs => some (.dot, cs)
  | '^' :: cs | '$' :: cs => some (.place, cs)
  | c :: cs => some (.literal c false, cs)

/-- Reads a primitive in a class. -/
def readInClass (f : Flags) : Reader Primitive
  | [] => none
  | '\\' :: cs => readEscaped f cs
  | c :: cs => some (.literal c false, cs)

end Primitive

end SocketRelay.Log.Expression
