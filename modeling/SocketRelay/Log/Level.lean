/-!
# Log levels
-/

namespace SocketRelay.Log

/-- How much a log line matters, from least to most. -/
inductive Level where
  | trace
  | debug
  | info
  | warn
  | error
  deriving DecidableEq, Repr, Inhabited

namespace Level

/-- The name in a configuration file. -/
def key : Level → String
  | trace => "trace"
  | debug => "debug"
  | info => "info"
  | warn => "warn"
  | error => "error"

/-- The name in a log line. -/
def label : Level → String
  | trace => "TRACE"
  | debug => "DEBUG"
  | info => "INFO"
  | warn => "WARN"
  | error => "ERROR"

def rank : Level → Nat
  | trace => 0
  | debug => 1
  | info => 2
  | warn => 3
  | error => 4

def all : List Level := [trace, debug, info, warn, error]

/-- Every level by the name it has in a configuration file. -/
def keys : List (String × Level) := all.map fun l => (l.key, l)

/-- The level of this name, in any mixture of ASCII case. `warning` is another name of `warn`. -/
def parse? (s : String) : Option Level :=
  (("warning", warn) :: keys).lookup s.toLower

/-- The message for a text that names no level. -/
def unknown (s : String) : String := s!"unknown log level '{s.toLower}'"

end Level

end SocketRelay.Log
