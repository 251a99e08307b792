import SocketRelay.Log.Level

/-!
# Logging settings
-/

namespace SocketRelay.Log

inductive Format where
  /-- One JSON object a line. -/
  | json
  /-- Several lines an event. -/
  | pretty
  /-- One line an event. -/
  | compact
  deriving DecidableEq, Repr, Inhabited

namespace Format

/-- Every format by the name it has in a configuration file. -/
def keys : List (String × Format) := [("json", json), ("pretty", pretty), ("compact", compact)]

def key : Format → String
  | json => "json"
  | pretty => "pretty"
  | compact => "compact"

end Format

/-- Where log lines go. -/
inductive Output where
  | stdout
  | stderr
  | file
  deriving DecidableEq, Repr, Inhabited

namespace Output

/-- Every output by the name it has in a configuration file. -/
def keys : List (String × Output) := [("stdout", stdout), ("stderr", stderr), ("file", file)]

def key : Output → String
  | stdout => "stdout"
  | stderr => "stderr"
  | file => "file"

end Output

structure Settings where
  level : Level := .info
  format : Format := .compact
  output : Output := .stdout
  /-- Where the log file is, if the output is a file. -/
  filePath : Option String := none
  deriving DecidableEq, Repr, Inhabited

end SocketRelay.Log
