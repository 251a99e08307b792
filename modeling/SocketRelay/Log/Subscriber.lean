import SocketRelay.Log.Filter
import SocketRelay.Net.IoError

/-!
# Setting up the log
-/

namespace SocketRelay.Log

open Net

inductive Error where
  /-- The output is a file, but no path is set. -/
  | missingFilePath
  | openFile (path : String) (cause : IoError)
  | install (reason : String)
  deriving DecidableEq, Repr

def Error.message : Error → String
  | missingFilePath => "logging.file_path is required when output is 'file'"
  | openFile path cause => s!"failed to open log file '{path}': {cause}"
  | install reason => s!"failed to install log subscriber: {reason}"

/-- Where lines are written. -/
inductive Destination where
  | stdout
  | stderr
  | file (path : String)
  deriving DecidableEq, Repr

/-- A log that is set up. -/
structure Subscriber where
  destination : Destination
  format : Format
  filter : Filter

/-- Where a log goes. A file is opened first. -/
def Destination.choose {m : Type → Type} [Monad m] (openFile : String → m (Except IoError Unit))
    (s : Settings) : ExceptT Error m Destination :=
  match s.output, s.filePath with
  | .stdout, _ => return .stdout
  | .stderr, _ => return .stderr
  | .file, none => throw .missingFilePath
  | .file, some path => do
    match ← openFile path with
    | .ok () => return .file path
    | .error cause => throw (.openFile path cause)

/-- Sets up the log and makes it the log of the process, which can have only one. A filter of the
environment wins over the configured level. -/
def Subscriber.init {m : Type → Type} [Monad m] (openFile : String → m (Except IoError Unit))
    (install : m (Except String Unit)) (environment : Option String) (s : Settings) :
    ExceptT Error m Subscriber := do
  let destination ← Destination.choose openFile s
  match ← install with
  | .ok () => return ⟨destination, s.format, .choose environment s.level⟩
  | .error reason => throw (.install reason)

/-- The lines of a record, if it passes the filter. -/
def Subscriber.lines (s : Subscriber) (time : Option String) (r : Record) : List String :=
  if s.filter.passes r then r.lines time s.format else []

end SocketRelay.Log
