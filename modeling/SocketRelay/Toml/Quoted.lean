import SocketRelay.Text.Digits
import SocketRelay.Toml.Blank

/-!
# Quoted strings

Basic strings, between double quotes, have escapes; literal strings, between
single quotes, have none. Three quotes open a string of several lines, which
drops a newline right after them and writes every newline as a line feed.
-/

namespace SocketRelay.Toml

open Text

/-- Reads one character or more that `p` holds of. -/
def readRun (p : Char → Bool) : Reader (List Char) := fun cs =>
  match cs.takeWhile p with
  | [] => none
  | run => some (run, cs.dropWhile p)

/-- The character a one-letter escape stands for. -/
def escapes : List (Char × Char) :=
  [('b', '\x08'), ('t', '\t'), ('n', '\n'), ('f', '\x0c'), ('r', '\r'), ('"', '"'), ('\\', '\\')]

/-- Reads a character by its number in exactly `count` hexadecimal digits. -/
def readCodePoint (count : Nat) : Reader Char := fun cs => do
  let digits := cs.take count
  let n ← number? 16 digits
  if digits.length = count ∧ n.isValidChar then some (Char.ofNat n, cs.drop count) else none

/-- Reads an escape. -/
def readEscape : Reader (List Char)
  | '\\' :: 'u' :: cs => (readCodePoint 4 cs).map fun (c, cs) => ([c], cs)
  | '\\' :: 'U' :: cs => (readCodePoint 8 cs).map fun (c, cs) => ([c], cs)
  | '\\' :: e :: cs => (escapes.lookup e).map fun c => ([c], cs)
  | _ => none

/-- Reads pieces of text between the given opening and closing texts. -/
def readEnclosed (quote : List Char) (piece : Reader (List Char)) : Reader String := fun cs => do
  let ((), cs) ← readText quote cs
  let (pieces, cs) := many piece cs
  let ((), cs) ← readText quote cs
  return (String.ofList pieces.flatten, cs)

def readBasic : Reader String :=
  readEnclosed ['"'] fun cs =>
    readRun (fun c => isTextChar c && c != '"' && c != '\\') cs <|> readEscape cs

def readLiteral : Reader String :=
  readEnclosed ['\''] (readRun fun c => isTextChar c && c != '\'')

/-! ## Several lines -/

/-- Reads a newline as a line feed. -/
def readLineFeed : Reader (List Char) := fun cs =>
  (readNewline cs).map fun ((), cs) => (['\n'], cs)

/-- Reads a backslash at the end of a line with all blanks after it, as nothing. -/
def readLineJoin : Reader (List Char)
  | '\\' :: cs => do
    let ((), cs) ← readNewline (skipSpace cs)
    return ([], (many (fun cs =>
      (readRun isSpace cs).map (fun (_, cs) => ((), cs)) <|> readNewline cs) cs).2)
  | _ => none

/-- Reads one quote or two. -/
def readInnerQuotes (quote : Char) : Reader (List Char) := fun cs =>
  let run := cs.takeWhile (· == quote)
  if run.isEmpty || 3 ≤ run.length then none else some (run, cs.drop run.length)

/-- Reads the three closing quotes, and up to two before them that belong to the text. -/
def readClosingQuotes (quote : Char) : Reader (List Char) := fun cs =>
  let count := (cs.takeWhile (· == quote)).length
  if count < 3 then none
  else
    let extra := min (count - 3) 2
    some (List.replicate extra quote, cs.drop (3 + extra))

/-- Reads a string of several lines. -/
def readLines (quote : Char) (piece : Reader (List Char)) : Reader String := fun cs => do
  let ((), cs) ← readText [quote, quote, quote] cs
  let cs := match readNewline cs with
    | some ((), cs) => cs
    | none => cs
  let (pieces, cs) := many
    (fun cs => piece cs <|> readLineFeed cs <|> readInnerQuotes quote cs) cs
  let (last, cs) ← readClosingQuotes quote cs
  return (String.ofList (pieces.flatten ++ last), cs)

def readBasicLines : Reader String :=
  readLines '"' fun cs =>
    readRun (fun c => isTextChar c && c != '"' && c != '\\') cs <|> readEscape cs <|>
      readLineJoin cs

def readLiteralLines : Reader String :=
  readLines '\'' (readRun fun c => isTextChar c && c != '\'')

/-- Reads a string of any of the four forms. -/
def readString : Reader String := fun cs =>
  match cs with
  | '"' :: '"' :: '"' :: _ => readBasicLines cs
  | '\'' :: '\'' :: '\'' :: _ => readLiteralLines cs
  | '"' :: _ => readBasic cs
  | _ => readLiteral cs

end SocketRelay.Toml
