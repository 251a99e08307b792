import SocketRelay.Log.Level
import SocketRelay.Text.Terminal

/-!
# The command line

A command line is read from left to right. An option takes its value from its
own word, after an equals sign, or from the next word unless that begins with a
dash. A value is looked at when the next option or flag comes or the words are
over; so of two mistakes in a row, a word that names nothing is the one that is
told. What is told shows the words without the commands to a terminal that may
be in them.
-/

namespace SocketRelay.CommandLine

open Text.Terminal

/-- An option that takes a value. -/
inductive Key where
  | config
  | routes
  | udpRoutes
  | logLevel
  deriving DecidableEq, Repr

namespace Key

def all : List Key := [config, routes, udpRoutes, logLevel]

def long : Key → String
  | config => "config"
  | routes => "routes"
  | udpRoutes => "udp-routes"
  | logLevel => "log-level"

/-- The name of the value in messages. -/
def valueName : Key → String
  | config => "CONFIG"
  | routes => "ROUTES"
  | udpRoutes => "UDP_ROUTES"
  | logLevel => "LOG_LEVEL"

def shown (k : Key) : String := s!"--{k.long} <{k.valueName}>"

end Key

/-- A word that asks for a text instead of a run. -/
inductive Flag where
  | help
  | version
  deriving DecidableEq, Repr

namespace Flag

def all : List Flag := [help, version]

def long : Flag → String
  | help => "help"
  | version => "version"

end Flag

/-- The options of a run. -/
structure Options where
  config : Option String := none
  routes : Option String := none
  udpRoutes : Option String := none
  logLevel : Option Log.Level := none
  deriving DecidableEq, Repr

inductive UsageError where
  | unexpectedWord (word : String)
  | unexpectedValue (value : String) (flag : Flag)
  | missingValue (key : Key)
  | repeated (key : Key)
  | badLevel (text : String)
  deriving DecidableEq, Repr

/-- The message for a terminal, with the word that it is about in a colour. -/
def UsageError.colored (e : UsageError) : String :=
  match e with
  | unexpectedWord word => s!"error: unexpected argument '{highlight word}' found"
  | unexpectedValue value flag =>
    s!"error: unexpected value '{highlight value}' for '--{flag.long}' found; " ++
      "no more were expected"
  | missingValue key => s!"error: a value is required for '{key.shown}' but none was supplied"
  | repeated key => s!"error: the argument '{key.shown}' cannot be used multiple times"
  | badLevel text =>
    s!"error: invalid value '{highlight text}' for '{Key.logLevel.shown}': " ++
      Log.Level.unknown text

/-- Whether the message is followed by how the program is called. A missing value and a level that
there is not are told alone. -/
def UsageError.showsUsage : UsageError → Bool
  | unexpectedWord _ | unexpectedValue .. | repeated _ => true
  | missingValue _ | badLevel _ => false

/-- What a command line asks for. -/
inductive Request where
  | run (o : Options)
  | flag (f : Flag)
  | misuse (e : UsageError)
  deriving DecidableEq, Repr

/-! ## Reading -/

/-- What was read so far. -/
structure Reading where
  options : Options := {}
  /-- The option whose value was not looked at yet, and the value if it came. -/
  pending : Option (Key × Option String) := none
  deriving DecidableEq, Repr

/-- Sets an option that is not set yet. -/
def Options.set (o : Options) (k : Key) (value : String) : Except UsageError Options :=
  match k with
  | .config =>
    if o.config.isSome then .error (.repeated k)
    else if value.isEmpty then .error (.missingValue k)
    else .ok { o with config := some value }
  | .routes =>
    if o.routes.isSome then .error (.repeated k) else .ok { o with routes := some value }
  | .udpRoutes =>
    if o.udpRoutes.isSome then .error (.repeated k) else .ok { o with udpRoutes := some value }
  | .logLevel =>
    if o.logLevel.isSome then .error (.repeated k)
    else
      match Log.Level.parse? value with
      | some level => .ok { o with logLevel := some level }
      | none => .error (.badLevel value)

namespace Reading

/-- Looks at the value that is pending. -/
def settle (r : Reading) : Except UsageError Reading :=
  match r.pending with
  | none => .ok r
  | some (k, none) => .error (.missingValue k)
  | some (k, some value) => (r.options.set k value).map fun options => { options }

/-- Takes an option with its value if the word holds one. -/
def takeOption (r : Reading) (k : Key) (value : Option String) : Except UsageError Reading := do
  let r ← r.settle
  match value with
  | some value => return { options := ← r.options.set k value }
  | none => return { r with pending := some (k, none) }

/-- What the words read so far ask for if none follows. -/
def request (r : Reading) : Request :=
  match r.settle with
  | .ok r => .run r.options
  | .error e => .misuse e

/-- What the words ask for that end in a flag. -/
def requestFlag (r : Reading) (f : Flag) : Request :=
  match r.settle with
  | .ok _ => .flag f
  | .error e => .misuse e

end Reading

/-- What a single word is. -/
inductive Word where
  | option (k : Key) (value : Option String)
  | flag (f : Flag)
  /-- The words that follow are no options. -/
  | rest
  /-- No option or flag begins so. -/
  | plain (word : String)
  | wrong (e : UsageError)
  deriving DecidableEq, Repr

/-- A word after two dashes, split at the first equals sign. -/
def Word.ofLong (name : List Char) (value : Option (List Char)) : Word :=
  let name := String.ofList name
  let value := value.map String.ofList
  match Key.all.find? (·.long == name), Flag.all.find? (·.long == name), value with
  | some k, _, value => .option k value
  | none, some f, none => .flag f
  | none, some f, some value => .wrong (.unexpectedValue value f)
  | none, none, _ => .wrong (.unexpectedWord s!"--{name}")

/-- A word after one dash. -/
def Word.ofShort : List Char → Word
  | ['c'] => .option .config none
  | 'c' :: '=' :: value | 'c' :: value => .option .config (some (String.ofList value))
  | 'h' :: _ => .flag .help
  | 'V' :: _ => .flag .version
  | c :: _ => .wrong (.unexpectedWord (String.ofList ['-', c]))
  | [] => .plain "-"

def Word.of (word : String) : Word :=
  match word.toList with
  | ['-', '-'] => .rest
  | '-' :: '-' :: cs =>
    match cs.dropWhile (· ≠ '=') with
    | '=' :: value => .ofLong (cs.takeWhile (· ≠ '=')) (some value)
    | _ => .ofLong cs none
  | '-' :: cs => .ofShort cs
  | _ => .plain word

/-- Reads the remaining words. -/
def read (r : Reading) : List String → Request
  | [] => r.request
  | word :: words =>
    match Word.of word with
    | .option k value =>
      match r.takeOption k value with
      | .ok r => read r words
      | .error e => .misuse e
    | .flag f => r.requestFlag f
    | .wrong e => .misuse e
    | .rest =>
      match words with
      | [] => r.request
      | word :: _ => .misuse (.unexpectedWord word)
    | .plain word =>
      match r.pending with
      | some (k, none) => read { r with pending := some (k, some word) } words
      | _ => .misuse (.unexpectedWord word)

/-- What a command line asks for. -/
def parse (words : List String) : Request := read {} words

/-! ## Texts -/

def programName : String := "r0n-relay"

def versionNumber : String := "0.1.0"

def versionLine : String := s!"{programName} {versionNumber}"

def usageLine : String := s!"Usage: {programName} [OPTIONS]"

/-- The text that explains the options. -/
def help : List String := [
  "Relay TCP and UDP ports to fixed remote endpoints",
  "",
  usageLine,
  "",
  "Options:",
  "  -c, --config <CONFIG>          Path to a TOML configuration file",
  "      --routes <ROUTES>          " ++
    "Comma-separated TCP routes in the format LOCALPORT:REMOTEHOST:REMOTEPORT",
  "      --udp-routes <UDP_ROUTES>  " ++
    "Comma-separated UDP routes in the format LOCALPORT:REMOTEHOST:REMOTEPORT",
  "      --log-level <LOG_LEVEL>    " ++
    "Log level (trace, debug, info, warn, error); overrides the file",
  "  -h, --help                     Print help",
  "  -V, --version                  Print version"]

/-- Where more is told, for a terminal. -/
def hint : String := "For more information, try '" ++ emphasize "--help" ++ "'."

/-- What is printed about a command line that asks for nothing that there is. It loses its terminal
sequences as a whole, because one that a word leaves open goes on behind the end of the line. -/
def UsageError.report (e : UsageError) : List String :=
  let usage := if e.showsUsage then [usageLine] else []
  (strip ("\n\n".intercalate (e.colored :: usage ++ [hint]))).splitOn "\n"

end SocketRelay.CommandLine
