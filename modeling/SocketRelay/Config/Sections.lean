import SocketRelay.Config.Basic
import SocketRelay.Config.Decode
import SocketRelay.Toml.Document

/-!
# Reading configurations

The fields of every section, and of the configuration itself. All fields have
defaults but four of a route.
-/

namespace SocketRelay.Config

open Net Toml

def loggingFields : List (Field Log.Settings) := [
  .of "level" (choice Log.Level.keys) fun x s => { s with level := x },
  .of "format" (choice Log.Format.keys) fun x s => { s with format := x },
  .of "output" (choice Log.Output.keys) fun x s => { s with output := x },
  .of "file_path" (string .path) fun x s => { s with filePath := some x }]

def tcpFields : List (Field Tcp.Settings) := [
  .of "workers" (natural .capacity) fun x s => { s with workers := x },
  .of "buffer_size" (natural .capacity) fun x s => { s with bufferSize := x },
  .of "nodelay" flag fun x s => { s with nodelay := x }]

def udpFields : List (Field Udp.Settings) := [
  .of "idle_timeout_secs" (natural .seconds) fun x s => { s with idleTimeoutSecs := x },
  .of "sweep_interval_secs" (natural .seconds) fun x s => { s with sweepIntervalSecs := x },
  .of "write_timeout_secs" (natural .seconds) fun x s => { s with writeTimeoutSecs := x },
  .of "read_timeout_secs" (natural .seconds) fun x s => { s with readTimeoutSecs := x },
  .of "outbound_queue" (natural .capacity) fun x s => { s with outboundQueue := x },
  .of "ingest_per_core" (natural .capacity) fun x s => { s with ingestPerCore := x },
  .of "event_queue" (natural .capacity) fun x s => { s with eventQueue := x },
  .of "max_datagram_size" (natural .capacity) fun x s => { s with maxDatagramSize := x }]

def decodeLogging : Decoder Log.Settings := record "LoggingConfig" loggingFields {}

def decodeTcp : Decoder Tcp.Settings := record "TcpRelaySettings" tcpFields {}

def decodeUdp : Decoder Udp.Settings := record "UdpRelaySettings" udpFields {}

/-! ## Routes -/

/-- A route as far as its entries are read. -/
structure RouteDraft where
  protocol : Option Protocol := none
  bindAddress : Option IpAddress := none
  localPort : Option UInt16 := none
  remoteHost : Option String := none
  remotePort : Option UInt16 := none

def routeFields : List (Field RouteDraft) := [
  .of "protocol" (choice Protocol.keys) fun x s => { s with protocol := some x },
  .of "bind_address" address fun x s => { s with bindAddress := some x },
  .of "local_port" port fun x s => { s with localPort := some x },
  .of "remote_host" (string .text) fun x s => { s with remoteHost := some x },
  .of "remote_port" port fun x s => { s with remotePort := some x }]

/-- The route of a finished draft. Only the bind address has a default; `absent` gives the error
for another field that is missing, by its place and its key. -/
def RouteDraft.finish (absent : Nat → String → DecodeError) (d : RouteDraft) :
    Except DecodeError Route := do
  let need {α : Type} (index : Nat) (key : String) : Option α → Except DecodeError α
    | some a => .ok a
    | none => .error (absent index key)
  let protocol ← need 0 "protocol" d.protocol
  let localPort ← need 2 "local_port" d.localPort
  let remoteHost ← need 3 "remote_host" d.remoteHost
  let remotePort ← need 4 "remote_port" d.remotePort
  return ⟨protocol, d.bindAddress.getD .unspecified, localPort, remoteHost, remotePort⟩

def decodeRoute : Decoder Route := fun v => do
  let draft ← record "Route" routeFields {} v
  draft.finish fun index key =>
    match v with
    | .array _ | .tables _ => .tooShort index (.record "Route") 5
    | _ => .missing key

/-! ## The whole -/

def fields : List (Field Config) := [
  .of "logging" decodeLogging fun x s => { s with logging := x },
  .of "tcp" decodeTcp fun x s => { s with tcp := x },
  .of "udp" decodeUdp fun x s => { s with udp := x },
  .of "routes" (list decodeRoute) fun x s => { s with routes := x }]

/-- The configuration a table describes. -/
def decode (entries : Table) : Except DecodeError Config :=
  ofTable fields {} entries

/-- Why a text is not a configuration. -/
inductive ParseError where
  /-- It is not valid TOML. -/
  | invalidText
  | decode (e : DecodeError)

/-- Reads a text as a document and the document with `decode`. -/
def parseWith {α : Type} (decode : Table → Except DecodeError α) (text : String) :
    Except ParseError α :=
  match Toml.parse? text with
  | none => .error .invalidText
  | some entries => (decode entries).mapError .decode

/-- The configuration a text describes. -/
def parse (text : String) : Except ParseError Config := parseWith decode text

end SocketRelay.Config
