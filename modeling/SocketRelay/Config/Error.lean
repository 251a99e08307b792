import SocketRelay.Config.Sections
import SocketRelay.Net.IoError
import SocketRelay.Route.Rule

/-!
# Configuration errors
-/

namespace SocketRelay

open Net

inductive ConfigError where
  | unreadable (path : String) (cause : IoError)
  | unparsable (cause : Config.ParseError)
  /-- Validation found errors, listed in the summary. -/
  | rejected (summary : String)
  | badRule (rule reason : String)
  | badValue (field reason : String)
  | notFound (path : String)

namespace ConfigError

def ofRule (e : RuleError) : ConfigError := badRule e.rule e.fault.message

def unknownProtocol (name : String) : ConfigError :=
  badValue "protocol" s!"unknown protocol '{name.toLower}' (expected tcp or udp)"

/-- The message of a document that does not parse names the cause only if the text is TOML. -/
def parseMessage : Config.ParseError → String
  | .invalidText => "failed to parse TOML"
  | .decode e => s!"failed to parse TOML: {e.message}"

def message : ConfigError → String
  | unreadable path cause => s!"failed to read configuration file '{path}': {cause}"
  | unparsable cause => parseMessage cause
  | rejected summary => s!"configuration validation failed: {summary}"
  | badRule rule reason => s!"invalid route format: '{rule}' ({reason})"
  | badValue field reason => s!"invalid value for field '{field}': {reason}"
  | notFound path => s!"configuration file not found: {path}"

end ConfigError

/-- The protocol of this name. -/
def Protocol.read (name : String) : Except ConfigError Protocol :=
  match Protocol.parse? name with
  | some p => .ok p
  | none => .error (.unknownProtocol name)

/-- The routes of a rule list. -/
def Rule.readList (p : Protocol) (list : String) : Except ConfigError (List Route) :=
  (Rule.parseList p list).mapError .ofRule

end SocketRelay
