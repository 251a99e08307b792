import SocketRelay.Config.Loader
import SocketRelay.Text.Bytes
import SocketRelay.Text.Split

/-!
# Storage

Directories and files by path, as far as loading a configuration and opening a
log file see them. A path is gone step by step, and every step but the last has
to lead into a directory that is there.
-/

namespace SocketRelay

open Net Text

/-- The names on the way from the root. -/
abbrev Location := List (List Char)

/-- Where a step leads. -/
def Location.enter (l : Location) (step : List Char) : Location :=
  if step = [] ∨ step = ['.'] then l
  else if step = ['.', '.'] then l.dropLast
  else l ++ [step]

structure Storage where
  /-- Where relative paths start. -/
  home : Location := []
  directories : List Location := [[]]
  files : List (Location × ByteArray) := []

namespace Storage

/-- The most bytes of a name. -/
def maxName : Nat := 255

/-- The most bytes of a path. -/
def maxPath : Nat := 4095

/-! ## Making -/

/-- Makes a directory, and all that it is in. -/
def addDirectory (s : Storage) (l : Location) : Storage :=
  { s with directories := (List.range (l.length + 1)).map (l.take ·) ++ s.directories }

/-- Makes a file, and the directory it is in. -/
def addFile (s : Storage) (l : Location) (content : ByteArray) : Storage :=
  let s := s.addDirectory l.dropLast
  { s with files := (l, content) :: s.files }

/-! ## Finding -/

def isDirectory (s : Storage) (l : Location) : Bool := s.directories.contains l

def isFile (s : Storage) (l : Location) : Bool := (s.files.lookup l).isSome

/-- Goes one step out of a directory. -/
def goto (s : Storage) (l : Location) (step : List Char) : Except IoError Location :=
  if s.isDirectory l then
    if maxName < byteLength step then .error .nameTooLong else .ok (l.enter step)
  else .error (if s.isFile l then .notADirectory else .notFound)

/-- Where a path starts, and its steps. -/
def steps (s : Storage) (path : List Char) : Except IoError (Location × List (List Char)) :=
  if '\x00' ∈ path then .error .nulInName
  else if path = [] then .error .notFound
  else if maxPath < byteLength path then .error .nameTooLong
  else .ok (if path.head? = some '/' then [] else s.home, splitAll '/' path)

/-- Where a path leads. There may be nothing. -/
def locate (s : Storage) (path : String) : Except IoError Location := do
  let (start, steps) ← s.steps path.toList
  steps.foldlM s.goto start

/-- What a configuration file's path leads to. -/
def content (s : Storage) (path : String) : Config.FileContent :=
  match s.locate path with
  | .error _ => .absent
  | .ok l =>
    if s.isDirectory l then .unreadable .isADirectory
    else
      match s.files.lookup l with
      | some bytes => .bytes bytes
      | none => .absent

/-- Opens a file to write at its end, and makes it if it is not there. A path that ends with a
slash names a directory, whatever its last step. -/
def openLog (s : Storage) (path : String) : Except IoError Storage := do
  let (start, steps) ← s.steps path.toList
  if steps.getLast? = some [] then
    let parents := (steps.reverse.dropWhile (· = [])).tail.reverse
    discard <| (parents ++ [[]]).foldlM s.goto start
    throw .isADirectory
  let l ← steps.foldlM s.goto start
  if s.isDirectory l then throw .isADirectory
  else if s.isFile l then return s
  else return { s with files := (l, .empty) :: s.files }

end Storage

end SocketRelay
