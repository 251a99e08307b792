import SocketRelay.Log.Subscriber
import SocketRelay.Proofs.Config.Admission
import SocketRelay.Proofs.Supervisor.Statuses
import Mathlib.Control.Lawful

/-!
# What can fail after validation

The relays check their own settings when they bind, and the log its own when it
is set up. These checks refuse what validation reports an error about, for the
first error in their part of a configuration (`Config.firstError_tcp`,
`Config.firstError_udp`), so a configuration that was accepted cannot fail for
its settings any more. Main statement: `Config.validationAgrees`.
-/

namespace SocketRelay

open Net

/-! ## Setting up the log -/

section
variable {m : Type → Type} [Monad m] [LawfulMonad m] {α β : Type}

/-- The computation does not fail because a path is missing. -/
def Log.KnowsPath (x : ExceptT Log.Error m α) : Prop :=
  ∃ y : m (Except {e : Log.Error // e ≠ .missingFilePath} α),
    x.run = Except.mapError Subtype.val <$> y

namespace Log.KnowsPath

theorem pure (a : α) : KnowsPath (m := m) (Pure.pure a) :=
  ⟨Pure.pure (.ok a), by rw [ExceptT.run_pure, map_pure]; rfl⟩

theorem throw {e : Error} (other : e ≠ .missingFilePath) :
    KnowsPath (m := m) (α := α) (MonadExcept.throw e) :=
  ⟨Pure.pure (.error ⟨e, other⟩), by rw [ExceptT.run_throw, map_pure]; rfl⟩

theorem bind {x : ExceptT Error m α} {f : α → ExceptT Error m β} (first : KnowsPath x)
    (rest : ∀ a, KnowsPath (f a)) : KnowsPath (x >>= f) := by
  obtain ⟨y, hy⟩ := first
  obtain ⟨z, hz⟩ := Classical.skolem.mp rest
  refine ⟨y >>= fun
    | .ok a => z a
    | .error e => Pure.pure (.error e), ?_⟩
  rw [ExceptT.run_bind, hy, bind_map_left, map_bind]
  congr 1
  funext result
  cases result with
  | ok a => exact hz a
  | error e => rw [map_pure]; rfl

/-- What the outside answers is not about a path. -/
theorem lift (x : m α) : KnowsPath (monadLift x : ExceptT Error m α) :=
  ⟨Except.ok <$> x, by rw [ExceptT.run_monadLift, monadLift_self, Functor.map_map]; rfl⟩

end Log.KnowsPath

theorem Log.Destination.knowsPath_choose (openFile : String → m (Except IoError Unit))
    {s : Settings} (logFile : s.output = .file → ∃ path, s.filePath = some path) :
    KnowsPath (Destination.choose openFile s) := by
  unfold choose
  cases output : s.output with
  | stdout => exact .pure _
  | stderr => exact .pure _
  | file =>
    obtain ⟨path, named⟩ := logFile output
    rw [named]
    refine (KnowsPath.lift _).bind fun result => ?_
    cases result with
    | ok _ => exact .pure _
    | error cause => exact .throw nofun

/-- With a path for a log file, setting up the log fails for the file or for another log. -/
theorem Log.Subscriber.knowsPath_init (openFile : String → m (Except IoError Unit))
    (install : m (Except String Unit)) (environment : Option String) {s : Settings}
    (logFile : s.output = .file → ∃ path, s.filePath = some path) :
    KnowsPath (Subscriber.init openFile install environment s) := by
  unfold init
  refine (Destination.knowsPath_choose openFile logFile).bind fun destination => ?_
  refine (KnowsPath.lift _).bind fun result => ?_
  cases result with
  | ok _ => exact .pure _
  | error reason => exact .throw nofun

end

namespace Config

variable {c : Config}

/-! ## Parts of a configuration -/

def Issue.isIn (part : String) (i : Issue) : Bool := part.toList.isPrefixOf i.field.toList

def Issue.isErrorIn (part : String) (i : Issue) : Bool := i.isError && i.isIn part

/-- The field of the first error about a part of a configuration. -/
def firstError (c : Config) (part : String) : Option String :=
  ((basic c).errors.find? (Issue.isIn part)).map (·.field)

/-- The answer of a check to the first error about its part. -/
def refusal : Option String → Except String Unit
  | none => .ok ()
  | some field => .error s!"invalid setting {field}: must be greater than zero"

section

variable {p : Issue → Bool}

theorem find?_issueIf_of_neg {condition : Bool} {issue : Issue} (other : p issue = false) :
    (issueIf condition issue).find? p = none := by
  cases condition
  · rfl
  · exact List.find?_cons_of_neg (Bool.eq_false_iff.mp other)

theorem find?_issueIf_of_pos {condition : Bool} {issue : Issue} (here : p issue = true) :
    (issueIf condition issue).find? p = if condition then some issue else none := by
  cases condition
  · rfl
  · exact List.find?_cons_of_pos here

theorem find?_zeroIssues_of_neg {s : Udp.Settings} {message : String} {settings : List Udp.Setting}
    (other : ∀ setting : Udp.Setting, p ⟨setting.field, message, .error⟩ = false) :
    (zeroIssues s message settings).find? p = none := by
  rw [List.find?_eq_none, zeroIssues, List.forall_mem_map]
  intro setting _
  rw [other]
  exact Bool.false_ne_true

theorem find?_zeroIssues_of_pos {s : Udp.Settings} {message : String} {settings : List Udp.Setting}
    (here : ∀ setting : Udp.Setting, p ⟨setting.field, message, .error⟩ = true) :
    ((zeroIssues s message settings).find? p).map (·.field) =
      (settings.find? s.isZero).map (·.field) := by
  rw [zeroIssues, List.find?_map, List.find?_filter]
  simp only [Function.comp_def, here, and_true, Bool.decide_eq_true, Option.map_map]

end

theorem isIn_routeField {part : String} {first : Char} {rest : List Char}
    (starts : part.toList = first :: rest) (other : first ≠ 'r') (i : Nat) (name message : String)
    (severity : Severity) : Issue.isIn part ⟨routeField i name, message, severity⟩ = false := by
  have field : ∃ cs, (routeField i name).toList = 'r' :: cs := by
    simp [routeField, toString]
  obtain ⟨cs, field⟩ := field
  rw [Issue.isIn, starts, field, List.isPrefixOf_cons_cons, beq_eq_false_iff_ne.mpr other,
    Bool.false_and]

/-- A part whose name starts in another way has no error about a route. -/
theorem find?_routes {part : String} {first : Char} {rest : List Char}
    (starts : part.toList = first :: rest) (other : first ≠ 'r') (routes : List Route) :
    (indexedIssues routeIssues routes).find? (Issue.isErrorIn part) = none := by
  have elsewhere (i : Nat) (name message : String) (severity : Severity) :
      Issue.isErrorIn part ⟨routeField i name, message, severity⟩ = false := by
    rw [Issue.isErrorIn, isIn_routeField starts other, Bool.and_false]
  rw [List.find?_eq_none]
  intro issue mem found
  obtain ⟨i, r, -, mem⟩ := mem_indexedIssues.mp mem
  have absent : (routeIssues i r).find? (Issue.isErrorIn part) = none := by
    simp only [routeIssues, List.find?_append, find?_issueIf_of_neg (elsewhere ..), Option.or_none]
  exact List.find?_eq_none.mp absent issue mem found

theorem firstError_eq (part : String) :
    c.firstError part = ((basic c).issues.find? (Issue.isErrorIn part)).map (·.field) := by
  rw [firstError, Report.errors, List.find?_filter]
  simp only [Bool.decide_and, Bool.decide_eq_true]
  rfl

theorem firstError_tcp : c.firstError "tcp." =
    if c.tcp.bufferSize = 0 then some "tcp.buffer_size" else none := by
  rw [firstError_eq]
  simp only [basic, List.find?_append]
  rw [find?_issueIf_of_neg rfl, find?_routes rfl (by decide), find?_issueIf_of_neg rfl,
    find?_issueIf_of_pos rfl, find?_zeroIssues_of_neg (fun setting => by cases setting <;> rfl),
    find?_zeroIssues_of_neg (fun setting => by cases setting <;> rfl)]
  by_cases zero : c.tcp.bufferSize = 0 <;> simp [zero]

theorem firstError_udp : c.firstError "udp." =
    (Udp.Setting.all.find? c.udp.isZero).map (·.field) := by
  rw [firstError_eq]
  simp only [basic, List.find?_append]
  rw [find?_issueIf_of_neg rfl, find?_routes rfl (by decide), find?_issueIf_of_neg rfl,
    find?_issueIf_of_neg rfl]
  simp only [Option.or_none, Option.none_or, Option.map_or]
  rw [find?_zeroIssues_of_pos (fun setting => by cases setting <;> rfl),
    find?_zeroIssues_of_pos (fun setting => by cases setting <;> rfl), ← Option.map_or,
    ← List.find?_append]
  rfl

/-! ## Checks of relays -/

theorem check_tcp : c.tcp.check.mapError (·.message) = refusal (c.firstError "tcp.") := by
  rw [firstError_tcp, Tcp.Settings.check]
  by_cases zero : c.tcp.bufferSize = 0
  · rw [if_pos zero, if_pos zero]
    rfl
  · rw [if_neg zero, if_neg zero]
    rfl

theorem check_udp : c.udp.check.mapError (·.message) = refusal (c.firstError "udp.") := by
  rw [firstError_udp, Udp.Settings.check]
  cases Udp.Setting.all.find? c.udp.isZero with
  | none => rfl
  | some setting => rfl

namespace Admissible

variable (h : c.Admissible)
include h

theorem tcp_check : c.tcp.check = .ok () := if_neg h.bufferSize

theorem udp_check : c.udp.check = .ok () := Udp.Settings.check_eq_ok_iff.mpr h.udp

theorem fit (p : Protocol) : c.fit p = .ok () := by
  cases p with
  | tcp => rw [Config.fit, h.tcp_check]; rfl
  | udp => rw [Config.fit, h.udp_check]; rfl

/-- A relay binds if its socket does. -/
theorem bind_tcp {text target : String} {socket : Except IoError Endpoint} {e : Tcp.Error}
    (refused : Tcp.Listener.bind text target c.tcp socket = .error e) :
    ∃ cause, socket = .error cause ∧ e = .bind text cause := by
  rw [Tcp.Listener.bind_eq, h.tcp_check] at refused
  cases socket with
  | error cause => cases refused; exact ⟨cause, rfl, rfl⟩
  | ok listen => cases refused

theorem bind_udp {text target : String} {socket : Except IoError Endpoint} {e : Udp.Error}
    (refused : Udp.Listener.bind text target c.udp socket = .error e) :
    ∃ cause, socket = .error cause ∧ e = .bind text cause := by
  rw [Udp.Listener.bind_eq, h.udp_check] at refused
  cases socket with
  | error cause => cases refused; exact ⟨cause, rfl, rfl⟩
  | ok listen => cases refused

theorem startAll_failed {cores : UInt64} {now : Instant} {sockets : Nat → Except IoError Endpoint}
    {i : Nat} {e : Entry} {message : String}
    (here : ((Supervisor.ofConfig c).startAll cores now sockets).entries[i]? = some e)
    (failed : e.status = .failed message) : ∃ cause, sockets i = .error cause ∧
      message = s!"failed to bind to {e.route.listenAddress}: {cause}" := by
  have started := Supervisor.Started.startAll c cores now sockets
  have inside : i < c.routes.length :=
    started.size ▸ (List.getElem?_eq_some_iff.mp here).1
  obtain ⟨e', here', as⟩ := started.started i inside _ (List.getElem?_eq_getElem inside)
  cases here.symm.trans here'
  cases bound : sockets i with
  | error cause =>
    have unbound := (as.unbound cause (h.fit _) bound).1
    rw [failed] at unbound
    cases unbound
    exact ⟨cause, rfl, by rw [as.route]⟩
  | ok listen =>
    have running := (as.bound listen (h.fit _) bound).1
    rw [failed] at running
    cases running

end Admissible

theorem loaded_iff {parsed : Except ConfigError Config} :
    (Loaded.of standard parsed).result = .ok c ↔ parsed = .ok c ∧ c.Accepted := by
  cases parsed with
  | error e => exact ⟨fun h => (by cases h), fun h => (by cases h.1)⟩
  | ok c' =>
    show (validate c' standard).result.map (fun () => c') = .ok c ↔ _
    constructor
    · intro h
      cases verdict : (validate c' standard).result with
      | error e => rw [verdict] at h; cases h
      | ok _ => rw [verdict] at h; cases h; exact ⟨rfl, verdict⟩
    · rintro ⟨same, accepted⟩
      cases same
      rw [accepted]
      rfl

/-- Validation agrees with what is checked later. -/
structure ValidationAgrees (c : Config) : Prop where
  accepts : c.Accepted ↔ c.Admissible
  loads : ∀ parsed, (Loaded.of standard parsed).result = .ok c ↔ parsed = .ok c ∧ c.Accepted
  tcp : c.tcp.check.mapError (·.message) = refusal (c.firstError "tcp.")
  udp : c.udp.check.mapError (·.message) = refusal (c.firstError "udp.")
  bindsTcp : c.Accepted → ∀ text target socket e,
    Tcp.Listener.bind text target c.tcp socket = .error e →
      ∃ cause, socket = .error cause ∧ e = .bind text cause
  bindsUdp : c.Accepted → ∀ text target socket e,
    Udp.Listener.bind text target c.udp socket = .error e →
      ∃ cause, socket = .error cause ∧ e = .bind text cause
  /-- A route fails to start for its socket only. -/
  starts : c.Accepted → ∀ cores now sockets i e message,
    ((Supervisor.ofConfig c).startAll cores now sockets).entries[i]? = some e →
      e.status = .failed message → ∃ cause, sockets i = .error cause ∧
        message = s!"failed to bind to {e.route.listenAddress}: {cause}"
  /-- The log fails for its file or for another log only, whatever opening one does besides. -/
  logs : c.Accepted → ∀ {m : Type → Type} [Monad m] [LawfulMonad m]
    (openFile : String → m (Except IoError Unit)) (install : m (Except String Unit))
    (environment : Option String),
    ∃ opened : m (Except {e : Log.Error // e ≠ .missingFilePath} Log.Subscriber),
      (Log.Subscriber.init openFile install environment c.logging).run =
        Except.mapError Subtype.val <$> opened

theorem validationAgrees (c : Config) : c.ValidationAgrees where
  accepts := accepted_iff_admissible
  loads _ := loaded_iff
  tcp := check_tcp
  udp := check_udp
  bindsTcp accepted _ _ _ _ := (accepted_iff_admissible.mp accepted).bind_tcp
  bindsUdp accepted _ _ _ _ := (accepted_iff_admissible.mp accepted).bind_udp
  starts accepted _ _ _ _ _ _ := (accepted_iff_admissible.mp accepted).startAll_failed
  logs accepted _ _ _ openFile install environment :=
    Log.Subscriber.knowsPath_init openFile install environment
      (accepted_iff_admissible.mp accepted).logFile

/-- Both protocols on one port, and no timeout of reads in a configuration file. -/
def sharedPort : Config where
  udp := { readTimeoutSecs := 0, overrides := { readTimeout := some ⟨1000000⟩ } }
  routes := [
    { protocol := .udp, localPort := 5300, remoteHost := "example.net", remotePort := 53 },
    { protocol := .tcp, localPort := 5300, remoteHost := "example.net", remotePort := 53 }]

/-- The configuration is accepted. With an override of zero it is not, and the check of the UDP
settings names the field that validation names. -/
theorem validationAgrees_sharedPort :
    (sharedPort.Accepted ∧ sharedPort.Admissible ∧
      sharedPort.udp.check.mapError (·.message) = .ok ()) ∧
    ∃ c : Config, c.udp.overrides.writeTimeout = some ⟨0⟩ ∧ ¬ c.Accepted ∧
      c.firstError "udp." = some "udp.write_timeout_secs" ∧
      c.udp.check.mapError (·.message) =
        .error "invalid setting udp.write_timeout_secs: must be greater than zero" := by
  have agrees := validationAgrees sharedPort
  have accepted : sharedPort.Accepted := by rfl
  refine ⟨⟨accepted, agrees.accepts.mp accepted, agrees.udp⟩, ?_⟩
  let c : Config := { sharedPort with udp := { overrides := { writeTimeout := some ⟨0⟩ } } }
  have first : c.firstError "udp." = some "udp.write_timeout_secs" := by rfl
  refine ⟨c, rfl, ?_, first, ?_⟩
  · intro accepted
    cases ((validationAgrees c).accepts.mp accepted).udp .writeTimeout
  · rw [(validationAgrees c).udp, first]
    rfl

end Config

end SocketRelay
