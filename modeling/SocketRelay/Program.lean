import SocketRelay.CommandLine
import SocketRelay.Config.Loader
import SocketRelay.Machine

/-!
# The program

A run reads the command line, loads a configuration, sets up the log, validates
the configuration, starts a relay for every route and serves until it is
interrupted. The first of these that fails ends it.
-/

namespace SocketRelay.Program

open Net Log

inductive Error where
  | config (cause : ConfigError)
  | log (cause : Log.Error)
  | noRouteStarted

def Error.message : Error → String
  | config cause => cause.message
  | log cause => cause.message
  | noRouteStarted => "no route could be started"

/-! ## Configuring -/

/-- Adds the routes of a rule list. -/
def extendWith (p : Protocol) (list : Option String) (c : Config) : Except ConfigError Config :=
  match list with
  | none => .ok c
  | some list => (Rule.readList p list).map c.extend

/-- A configuration with what the command line adds to it. -/
def mergeOptions (o : CommandLine.Options) (c : Config) : Except ConfigError Config := do
  let c ← extendWith .tcp o.routes c
  let c ← extendWith .udp o.udpRoutes c
  match o.logLevel with
  | some level => return { c with logging.level := level }
  | none => return c

/-! ## Texts -/

/-- The routes of a protocol as the banner shows them. -/
def bannerPart (c : Config) (p : Protocol) : List String :=
  s!"{p} routes:" ::
    (c.routesFor p).flatMap fun r => s!"  {r.listenAddress} -> {r.targetAddress}".splitOn "\n"

def banner (c : Config) : List String :=
  "============ R0N RELAY ============" ::
    bannerPart c .tcp ++ bannerPart c .udp ++ ["==================================="]

def warningRecord (i : Config.Issue) : Record :=
  ⟨.configuration, .warn, i.message, [⟨"field", i.field, false⟩]⟩

def startRecords (cores : UInt64) : List Record :=
  let name := CommandLine.programName
  [⟨.program, .info, s!"Starting {name} version {CommandLine.versionNumber}", []⟩,
    ⟨.program, .info, s!"Using {cores} CPU cores", []⟩]

def endingRecord : Ending → Record
  | .interrupted => ⟨.program, .info, "Shutting down", []⟩
  | .routesStopped => ⟨.program, .error, "All routes have stopped", []⟩
  | .noSignal cause =>
    ⟨.program, .error, "Failed to listen for shutdown signal", [⟨"error", cause.message, false⟩]⟩

def statusRecord (e : Entry) : Record :=
  ⟨.program, .info, "Route status",
    [⟨"route", e.route.text, false⟩, ⟨"status", e.status.text, false⟩]⟩

/-- What was logged about a route. -/
def routeRecords (s : Supervisor) (i : Nat) : List Record :=
  match s.entries[i]? with
  | some e => (s.eventsOf i).map (Record.ofEvent (some e.route.text))
  | none => []

/-! ## Running -/

section

variable {m : Type → Type} [Monad m]

/-- The configuration that the options ask for. -/
def configure (machine : Machine m) (o : CommandLine.Options) : ExceptT ConfigError m Config := do
  let base ← match o.config with
    | none => pure {}
    | some path => do
      let content ← machine.readFile path
      (Config.parseFile path content : Except ConfigError Config)
  (mergeOptions o base : Except ConfigError Config)

/-- Starts the relays of all routes. -/
def startRoutes (machine : Machine m) (log : Subscriber) (s : Supervisor) : m Supervisor :=
  s.entries.zipIdx.foldlM (fun s (e, i) => do
    let socket ← machine.bind e.route.protocol e.route.listenAddress
    let s := s.startRoute machine.cores (← machine.now) i socket
    machine.record log (routeRecords s i)
    return s) s

/-- A run with these options, up to its end. -/
def relay (machine : Machine m) (o : CommandLine.Options) : ExceptT Error m Unit := do
  let c ← (configure machine o).adapt Error.config
  let log ← (Subscriber.init machine.openFile machine.installLog machine.logFilter
    c.logging).adapt Error.log
  let verdict := Config.validate c Config.standard
  machine.record log (verdict.warnings.map warningRecord)
  (verdict.result.mapError Error.config : Except Error Unit)
  machine.writeLines .stdout (banner c)
  machine.record log (startRecords machine.cores)
  let s ← (startRoutes machine log (.ofConfig c) : m Supervisor)
  if s.running = 0 then throw .noRouteStarted
  let (s, ending) ← machine.serve log s
  machine.record log [endingRecord ending]
  let s := match ending with
    | .interrupted => s.shutdown
    | _ => s
  machine.record log (s.entries.map statusRecord)

/-- A run with these words on its command line; its value is the exit code. -/
def run (machine : Machine m) (words : List String) : m UInt32 := do
  match CommandLine.parse words with
  | .flag .help => do
    machine.writeLines .stdout CommandLine.help
    return 0
  | .flag .version => do
    machine.writeLines .stdout [CommandLine.versionLine]
    return 0
  | .misuse e => do
    machine.writeLines .stderr e.report
    return 2
  | .run o => do
    match ← (relay machine o).run with
    | .ok () => return 0
    | .error e =>
      machine.writeLines .stderr (s!"Error: {e.message}".splitOn "\n")
      return 1

end

end SocketRelay.Program
