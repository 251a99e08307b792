import SocketRelay.Text.Reader

/-!
# Blanks and comments

Spaces separate tokens of one line; newlines and comments separate lines, and
count as blanks inside an array.
-/

namespace SocketRelay.Toml

open Text

def isSpace (c : Char) : Bool := c == ' ' || c == '\t'

/-- A character that may stand in a comment or a string of one line. -/
def isTextChar (c : Char) : Bool :=
  c == '\t' || (0x20 ≤ c.toNat && c.toNat != 0x7F)

def skipSpace (cs : List Char) : List Char := cs.dropWhile isSpace

def readNewline : Reader Unit
  | '\n' :: cs => some ((), cs)
  | '\r' :: '\n' :: cs => some ((), cs)
  | _ => none

/-- Skips a comment, up to the end of its line. -/
def skipComment : List Char → List Char
  | '#' :: cs => cs.dropWhile isTextChar
  | cs => cs

/-- Reads the end of a line, with a comment before it. -/
def readLineEnd : Reader Unit := fun cs =>
  match skipComment (skipSpace cs) with
  | [] => some ((), [])
  | cs => readNewline cs

/-- Reads spaces, a newline or a comment. -/
def readBlank : Reader Unit
  | [] => none
  | c :: cs =>
    if isSpace c then some ((), skipSpace cs)
    else if c = '#' then some ((), skipComment (c :: cs))
    else readNewline (c :: cs)

/-- Skips spaces, newlines and comments. -/
def skipBlank (cs : List Char) : List Char := (many readBlank cs).2

end SocketRelay.Toml
