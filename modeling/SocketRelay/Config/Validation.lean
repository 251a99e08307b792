import SocketRelay.Config.Basic
import SocketRelay.Text.Blank

/-!
# Validation

A validator looks at a whole configuration and reports issues in a fixed order.
`basic` finds values no relay can run with; `portConflicts` finds two routes
that claim one listener.
-/

namespace SocketRelay.Config

open Text

inductive Severity where
  /-- The configuration cannot be used. -/
  | error
  /-- The configuration can be used, but may not do what was meant. -/
  | warning
  deriving DecidableEq, Repr

structure Issue where
  /-- The path of the field. -/
  field : String
  message : String
  severity : Severity := .error
  deriving DecidableEq, Repr

namespace Issue

def isError (i : Issue) : Bool := i.severity == .error

def isWarning (i : Issue) : Bool := i.severity == .warning

def line (i : Issue) : String := s!"{i.field}: {i.message}"

end Issue

/-- The issues a validation found, in order. -/
structure Report where
  issues : List Issue := []
  deriving DecidableEq, Repr, Inhabited

namespace Report

def add (r : Report) (i : Issue) : Report := ⟨r.issues ++ [i]⟩

/-- Whether there is no error. -/
def isValid (r : Report) : Bool := !r.issues.any Issue.isError

def errors (r : Report) : List Issue := r.issues.filter Issue.isError

def warnings (r : Report) : List Issue := r.issues.filter Issue.isWarning

/-- The issues of one report, then those of another. -/
def merge (r s : Report) : Report := ⟨r.issues ++ s.issues⟩

/-- The errors on one line. -/
def summary (r : Report) : String := "; ".intercalate (r.errors.map Issue.line)

end Report

abbrev Validator := Config → Report

/-- The given issue if the condition holds. -/
def issueIf (condition : Bool) (issue : Issue) : List Issue :=
  if condition then [issue] else []

/-! ## Unusable values -/

def routeField (index : Nat) (name : String) : String := s!"routes[{index}].{name}"

def routeIssues (index : Nat) (r : Route) : List Issue :=
  issueIf (isBlankText r.remoteHost)
    ⟨routeField index "remote_host", "Remote host cannot be empty", .error⟩ ++
  issueIf (r.remotePort == 0)
    ⟨routeField index "remote_port", "Remote port cannot be 0", .error⟩ ++
  issueIf (r.localPort == 0)
    ⟨routeField index "local_port", "Local port 0 binds an ephemeral port", .warning⟩

/-- Issues of each item with its index. -/
def indexedIssues (f : Nat → Route → List Issue) (routes : List Route) : List Issue :=
  routes.zipIdx.flatMap fun (r, i) => f i r

/-- The issue of a UDP setting that is zero. -/
def zeroIssues (s : Udp.Settings) (message : String) (settings : List Udp.Setting) : List Issue :=
  (settings.filter s.isZero).map fun setting => ⟨setting.field, message, .error⟩

def basic : Validator := fun c => {
  issues :=
    issueIf c.routes.isEmpty
      ⟨"routes", "At least one TCP or UDP route is required", .error⟩ ++
    indexedIssues routeIssues c.routes ++
    issueIf (c.logging.output == .file && c.logging.filePath.isNone)
      ⟨"logging.file_path", "File path is required when output is 'file'", .error⟩ ++
    issueIf (c.tcp.bufferSize == 0) ⟨"tcp.buffer_size", "Buffer size cannot be 0", .error⟩ ++
    zeroIssues c.udp "Duration cannot be 0" Udp.Setting.durations ++
    zeroIssues c.udp "Capacity cannot be 0" Udp.Setting.capacities }

/-! ## Listeners claimed twice -/

/-- Whether two routes claim one listener. -/
def sameListener (a b : Route) : Bool :=
  a.protocol == b.protocol && a.bindAddress == b.bindAddress && a.localPort == b.localPort

def conflict (r : Route) (index other : Nat) : Issue :=
  let message := s!"{r.protocol} port {r.localPort} conflicts with routes[{other}]"
  ⟨routeField index "local_port", message, .error⟩

/-- The conflicts of routes with the routes before them; `seen` holds those, the nearest first.
Port 0 asks for any free port and conflicts with nothing. -/
def conflictsFrom (index : Nat) (seen : List (Route × Nat)) : List Route → List Issue
  | [] => []
  | r :: rest =>
    let here :=
      if r.localPort = 0 then []
      else
        match seen.find? (fun p => sameListener p.1 r) with
        | some (_, other) => [conflict r index other]
        | none => []
    here ++ conflictsFrom (index + 1) ((r, index) :: seen) rest

def portConflicts : Validator := fun c => ⟨conflictsFrom 0 [] c.routes⟩

end SocketRelay.Config
