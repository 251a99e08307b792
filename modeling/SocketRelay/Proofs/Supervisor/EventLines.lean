import SocketRelay.Config.Loader
import SocketRelay.Proofs.Supervisor.Statuses
import SocketRelay.Proofs.Tcp.EventLines
import SocketRelay.Proofs.Udp.EventLines

/-!
# The lines of all events

What a supervisor records is that a route failed, which does not name the target
and takes one line (`Supervisor.LogsPlainly.run?`). With the events of the relays
this is all that is recorded while a configuration is served
(`Config.Records`). The line of such an event has a line break exactly if it
names the target and the host of the remote has one
(`Config.Records.breaksWithHost`): validation refuses a blank host, but not a
host with a line break inside (`Config.forgedLine`).
-/

namespace SocketRelay

open Net Text

/-! ## Errors of routes -/

namespace RouteRelay

/-- How a relay that serves can end. What an abort was for is told on one line. -/
inductive Leaves : Except String Unit → Prop where
  | stopped : Leaves (.ok ())
  | workersStopped : Leaves (.error Tcp.Error.workersStopped.message)
  | managerStopped : Leaves (.error Udp.Error.managerStopped.message)
  | aborted {reason : String} (plain : hasLineBreak reason = false) :
    Leaves (.error s!"relay task aborted: {reason}")

theorem Leaves.plain {outcome : Except String Unit} (leaves : Leaves outcome) {message : String}
    (failed : outcome = .error message) : hasLineBreak message = false := by
  cases leaves with
  | stopped => cases failed
  | workersStopped | managerStopped => cases failed; decide +kernel
  | aborted plain =>
    cases failed
    simp only [hasLineBreak_append, hasLineBreak_toString, plain]
    decide +kernel

end RouteRelay

theorem Udp.Setting.hasLineBreak_field (setting : Udp.Setting) :
    hasLineBreak setting.field = false := by
  cases setting <;> decide +kernel

theorem Udp.Error.hasLineBreak_zero (setting : Udp.Setting) :
    hasLineBreak (Udp.Error.zero setting).message = false := by
  unfold Udp.Error.message
  simp only [hasLineBreak_append, hasLineBreak_toString, setting.hasLineBreak_field]
  decide +kernel

theorem Config.plain_of_fit {c : Config} {p : Protocol} {message : String}
    (unfit : c.fit p = .error message) : hasLineBreak message = false := by
  cases p with
  | tcp =>
    simp only [fit, Tcp.Settings.check] at unfit
    split at unfit
    · cases unfit; decide +kernel
    · cases unfit
  | udp =>
    simp only [fit, Udp.Settings.check] at unfit
    split at unfit
    · cases unfit; exact Udp.Error.hasLineBreak_zero _
    · cases unfit

theorem Route.breaksWith_failure (r : Route) {message : String}
    (plain : hasLineBreak message = false) (target : String) :
    (r.failure message).BreaksWith target :=
  .other rfl (List.forall_mem_cons.mpr
    ⟨r.hasLineBreak_listenAddress, List.forall_mem_singleton.mpr plain⟩)

/-! ## The supervisor -/

namespace Supervisor

variable {s s' : Supervisor} {i : Nat} {e : Entry}

/-- A route that failed to start has a message of one line. -/
theorem StartedAs.plain {c : Config} {r : Route} {socket : Except IoError Endpoint}
    (started : StartedAs c r socket e) (plain : ∀ cause, socket = .error cause → cause.IsPlain)
    {message : String} (failed : e.status = .failed message) : hasLineBreak message = false := by
  cases fit : c.fit r.protocol with
  | error reason =>
    cases failed.symm.trans (started.unfit _ fit).1
    exact Config.plain_of_fit fit
  | ok _ =>
    cases bound : socket with
    | error cause =>
      have single : hasLineBreak (toString cause) = false := plain cause bound
      cases failed.symm.trans (started.unbound _ fit bound).1
      simp only [hasLineBreak_append, hasLineBreak_toString, r.hasLineBreak_listenAddress, single]
      decide +kernel
    | ok listen => cases failed.symm.trans (started.bound _ fit bound).1

/-- The relay of a route ends in one of the ways in which it can. -/
def Action.IsPlain : Action → Prop
  | .ended _ outcome => RouteRelay.Leaves outcome
  | .panicked _ reason => hasLineBreak reason = false
  | .join _ | .shutdown => True

/-- What a supervisor has logged names no target and takes one line each, and the relays that ended
did so in one of the ways in which they can. -/
structure LogsPlainly (s : Supervisor) : Prop where
  lines : ∀ p ∈ s.log, ∀ target, p.2.BreaksWith target
  tasks : ∀ t ∈ s.tasks, ∀ outcome, t.outcome = some outcome → RouteRelay.Leaves outcome

namespace LogsPlainly

theorem act (h : LogsPlainly s) {a : Action} (plain : a.IsPlain) (act : s.act a = some s') :
    LogsPlainly s' := by
  obtain ⟨k, i, outcome, left, -, rfl⟩ | ⟨k, i, outcome, rfl, ended, rfl⟩ | ⟨rfl, rfl⟩ :=
    act_cases act
  · refine ⟨h.lines, fun t mem outcome' ended => ?_⟩
    rcases List.mem_or_eq_of_mem_set mem with mem | rfl
    · exact h.tasks t mem outcome' ended
    · cases ended
      rcases left with rfl | ⟨reason, rfl, rfl⟩
      · exact plain
      · exact .aborted plain
  · have leaves := h.tasks _ (List.mem_of_getElem? ended) outcome rfl
    have tasks : ∀ t ∈ s.tasks.eraseIdx k, ∀ outcome, t.outcome = some outcome →
        RouteRelay.Leaves outcome := fun t mem => h.tasks t (List.mem_of_mem_eraseIdx mem)
    cases here : s.entries[i]? with
    | none =>
      simp only [settle, here]
      exact ⟨h.lines, tasks⟩
    | some e =>
      rw [settle_eq (s := { s with tasks := s.tasks.eraseIdx k }) here]
      refine ⟨List.forall_mem_append.mpr ⟨h.lines, fun p mem target => ?_⟩, tasks⟩
      cases outcome with
      | ok _ => cases mem
      | error message =>
        cases List.mem_singleton.mp mem
        exact e.route.breaksWith_failure (leaves.plain rfl) target
  · exact ⟨h.lines, fun _ mem => absurd mem List.not_mem_nil⟩

theorem run? (h : LogsPlainly s) {actions : List Action} (plain : ∀ a ∈ actions, a.IsPlain)
    (run : s.run? actions = some s') : LogsPlainly s' := by
  induction actions generalizing s with
  | nil => cases run; exact h
  | cons a rest ih =>
    obtain ⟨next, act, run⟩ := Option.bind_eq_some_iff.mp run
    obtain ⟨plain, plain'⟩ := List.forall_mem_cons.mp plain
    exact ih (h.act plain act) plain' run

theorem startAll (c : Config) (cores : UInt64) (now : Instant)
    {sockets : Nat → Except IoError Endpoint}
    (plain : ∀ i cause, sockets i = .error cause → cause.IsPlain) :
    LogsPlainly ((ofConfig c).startAll cores now sockets) := by
  have size : (Supervisor.ofConfig c).entries.length = c.routes.length := List.length_map _
  refine (startAll_induction (fun k t => Started c sockets k t ∧ LogsPlainly t)
    ⟨Started.ofConfig c sockets, nofun, nofun⟩ fun k t inside h => ?_).2
  obtain ⟨started, logs⟩ := h
  rw [size] at inside
  refine ⟨started.startRoute inside, ?_⟩
  have here := started.fresh k (Nat.le_refl k)
  rw [List.getElem?_eq_getElem inside] at here
  obtain ⟨message, as, eq⟩ | ⟨relay, -, eq⟩ := startRoute_cases cores now (sockets k) here rfl
  · rw [eq]
    refine ⟨List.forall_mem_append.mpr ⟨logs.lines, ?_⟩, logs.tasks⟩
    exact List.forall_mem_singleton.mpr (Route.breaksWith_failure _ (as.plain (plain k) rfl))
  · rw [eq]
    refine ⟨logs.lines, List.forall_mem_append.mpr ⟨logs.tasks, ?_⟩⟩
    exact List.forall_mem_singleton.mpr nofun

end LogsPlainly

end Supervisor

/-! ## Everything that is recorded -/

namespace Config

/-- What can be recorded about a route while a configuration is served, by the supervisor or by the
relay of the route. The errors that come from outside take one line each. -/
inductive Records (c : Config) : Route → Event → Prop where
  | supervisor {cores : UInt64} {now : Instant} {sockets : Nat → Except IoError Endpoint}
    {actions : List Supervisor.Action} {s : Supervisor} {i : Nat} {r : Route} {event : Event}
    (bound : ∀ i cause, sockets i = .error cause → cause.IsPlain)
    (plain : ∀ a ∈ actions, a.IsPlain)
    (run : ((Supervisor.ofConfig c).startAll cores now sockets).run? actions = some s)
    (configured : c.routes[i]? = some r) (logged : (i, event) ∈ s.log) : Records c r event
  | tcp {cores : UInt64} {now : Instant} {socket : Except IoError Endpoint}
    {actions : List Tcp.Relay.Action} {start relay : Tcp.Relay} {r : Route} {event : Event}
    (configured : r ∈ c.routes)
    (started : RouteRelay.start c cores now r socket = .ok (.tcp start))
    (plain : ∀ a ∈ actions, a.IsPlain) (run : start.run? actions = some relay)
    (logged : event ∈ relay.events) : Records c r event
  | udp {cores : UInt64} {now t : Instant} {socket : Except IoError Endpoint}
    {actions : List (Instant × Udp.Relay.Action)} {start relay : Udp.Relay}
    {r : Route} {event : Event} (configured : r ∈ c.routes)
    (started : RouteRelay.start c cores now r socket = .ok (.udp start))
    (plain : ∀ a ∈ actions, a.2.IsPlain) (run : start.run? now actions = some (t, relay))
    (logged : event ∈ relay.engine.log) : Records c r event
  | udpEnded {cores : UInt64} {now : Instant} {socket : Except IoError Endpoint}
    {listen : Endpoint} {log : List Event} {r : Route} {event : Event} (configured : r ∈ c.routes)
    (started : RouteRelay.start c cores now r socket = .ok (.udpEnded listen log))
    (logged : event ∈ log) : Records c r event

end Config

theorem RouteRelay.start_eq_tcp {c : Config} {cores : UInt64} {now : Instant} {r : Route}
    {socket : Except IoError Endpoint} {start : Tcp.Relay}
    (started : RouteRelay.start c cores now r socket = .ok (.tcp start)) :
    ∃ l : Tcp.Listener, l.target = r.targetAddress ∧ start = l.start cores := by
  unfold RouteRelay.start at started
  split at started
  · split at started
    · next l bound =>
      cases started
      rw [Tcp.Listener.bind_eq] at bound
      split at bound <;> cases bound
      exact ⟨_, rfl, rfl⟩
    · cases started
  · split at started
    · next l _ =>
      obtain ⟨relay, -, eq⟩ | ⟨-, eq⟩ := startUdp_cases l cores now
      · rw [eq] at started; cases started
      · rw [eq] at started; cases started
    · cases started

theorem RouteRelay.start_eq_startUdp {c : Config} {cores : UInt64} {now : Instant} {r : Route}
    {socket : Except IoError Endpoint} {relay : RouteRelay} (speaks : relay.protocol = .udp)
    (started : RouteRelay.start c cores now r socket = .ok relay) :
    ∃ l : Udp.Listener, l.target = r.targetAddress ∧ relay = startUdp l cores now := by
  unfold RouteRelay.start at started
  split at started
  · split at started <;> cases started
    cases speaks
  · split at started
    · next l bound =>
      cases started
      rw [Udp.Listener.bind_eq] at bound
      split at bound <;> cases bound
      exact ⟨_, rfl, rfl⟩
    · cases started

theorem RouteRelay.start_eq_udp {c : Config} {cores : UInt64} {now : Instant} {r : Route}
    {socket : Except IoError Endpoint} {start : Udp.Relay}
    (started : RouteRelay.start c cores now r socket = .ok (.udp start)) :
    ∃ l : Udp.Listener, l.target = r.targetAddress ∧
      l.start? cores Udp.Payload.maxBuffer now = some start := by
  obtain ⟨l, target, eq⟩ := start_eq_startUdp rfl started
  obtain ⟨relay, began, same⟩ | ⟨-, same⟩ := startUdp_cases l cores now <;> rw [same] at eq
  · cases eq
    exact ⟨l, target, began⟩
  · cases eq

theorem RouteRelay.start_eq_udpEnded {c : Config} {cores : UInt64} {now : Instant} {r : Route}
    {socket : Except IoError Endpoint} {listen : Endpoint} {log : List Event}
    (started : RouteRelay.start c cores now r socket = .ok (.udpEnded listen log)) :
    ∃ l : Udp.Listener, l.target = r.targetAddress ∧ log = l.lastWords cores := by
  obtain ⟨l, target, eq⟩ := start_eq_startUdp rfl started
  obtain ⟨relay, -, same⟩ | ⟨-, same⟩ := startUdp_cases l cores now <;> rw [same] at eq
  · cases eq
  · cases eq
    exact ⟨l, target, rfl⟩

namespace Config

/-- The line of an event that is recorded about a route breaks exactly if it names the target and
the host of the remote has a line break. -/
theorem Records.breaksWithHost {c : Config} {r : Route} {event : Event}
    (recorded : c.Records r event) :
    hasLineBreak event.line = (event.namesTarget && hasLineBreak r.remoteHost) := by
  suffices breaks : event.BreaksWith r.targetAddress by
    rw [← r.hasLineBreak_targetAddress]
    exact breaks
  cases recorded with
  | supervisor bound plain run _ logged =>
    have logs := (Supervisor.LogsPlainly.startAll c _ _ bound).run? plain run
    exact logs.lines _ logged _
  | tcp _ started plain run logged =>
    obtain ⟨l, target, rfl⟩ := RouteRelay.start_eq_tcp started
    exact target ▸ Tcp.Relay.breaksWith_of_run? plain run _ logged
  | udp _ started plain run logged =>
    obtain ⟨l, target, started⟩ := RouteRelay.start_eq_udp started
    exact target ▸ Udp.Relay.breaksWith_of_run? started plain run _ logged
  | udpEnded _ started logged =>
    obtain ⟨l, target, rfl⟩ := RouteRelay.start_eq_udpEnded started
    cases l.eq_started_of_mem_lastWords logged
    exact target ▸ l.breaksWith_started

def brokenRoute : Route where
  protocol := .tcp
  bindAddress := .v4 ⟨127, 0, 0, 1⟩
  localPort := 0
  remoteHost := "a\nb"
  remotePort := 80

def brokenHost : Config where
  routes := [brokenRoute]

def brokenRelay : Tcp.Relay :=
  Tcp.Listener.start ⟨.v4 ⟨127, 0, 0, 1⟩ 40000, brokenRoute.targetAddress, {}⟩ 1

theorem brokenRelay_started : RouteRelay.start brokenHost 1 .zero brokenRoute
    (.ok (.v4 ⟨127, 0, 0, 1⟩ 40000)) = .ok (.tcp brokenRelay) := by rfl

def failingActions : List Tcp.Relay.Action :=
  [.accept (.v4 ⟨10, 0, 0, 1⟩ 4001), .handOff, .dialed 0 (.error .connectionRefused), .announce 0,
    .acceptFailed .invalidArgument]

/-- The lines of the start and of the dial break, that of the accept does not. -/
theorem breaksWithHost_brokenHost : ∃ relay : Tcp.Relay,
    brokenRelay.run? failingActions = some relay ∧
    (∀ event ∈ relay.events, brokenHost.Records brokenRoute event ∧
      hasLineBreak event.line = (event.namesTarget && hasLineBreak brokenRoute.remoteHost)) ∧
    relay.events.map (·.namesTarget) = [true, true, false] := by
  have run : (brokenRelay.run? failingActions).any
      (fun relay => relay.events.map (·.namesTarget) = [true, true, false]) = true := by
    decide +kernel
  obtain ⟨relay, run, named⟩ := (Option.any_eq_true _ _).mp run
  have refused : IoError.connectionRefused.IsPlain := by unfold IoError.IsPlain; decide +kernel
  have invalid : IoError.invalidArgument.IsPlain := by unfold IoError.IsPlain; decide +kernel
  have plain : ∀ a ∈ failingActions, a.IsPlain := by
    simp only [failingActions, List.forall_mem_cons]
    exact ⟨trivial, trivial, refused, trivial, invalid, nofun⟩
  refine ⟨relay, run, fun event mem => ?_, of_decide_eq_true named⟩
  have recorded : brokenHost.Records brokenRoute event :=
    .tcp List.mem_cons_self brokenRelay_started plain run mem
  exact ⟨recorded, recorded.breaksWithHost⟩

def brokenText : String :=
  "[[routes]]\nprotocol = 'tcp'\nbind_address = '127.0.0.1'\nlocal_port = 0\n" ++
    "remote_host = \"a\\nb\"\nremote_port = 80\n"

/-- The configuration is accepted, and the line of the first event ends inside of the host. -/
theorem forgedLine : (loadText standard brokenText).result = .ok brokenHost ∧
    ∃ event, brokenHost.Records brokenRoute event ∧
      event.line = "TCP relay started on 127.0.0.1:40000 forwarding to a\nb:80" ∧
      hasLineBreak event.line = true := by
  constructor
  · have loaded : (loadText standard brokenText).result.toOption = some brokenHost := by
      decide +kernel
    cases result : (loadText standard brokenText).result with
    | error e => rw [result] at loaded; cases loaded
    | ok c => rw [result] at loaded; cases loaded; rfl
  · refine ⟨.relayStarted .tcp (.v4 ⟨127, 0, 0, 1⟩ 40000) brokenRoute.targetAddress, ?_, ?_, ?_⟩
    · have run : brokenRelay.run? [] = some brokenRelay := rfl
      exact .tcp List.mem_cons_self brokenRelay_started (fun _ mem => absurd mem List.not_mem_nil)
        run List.mem_cons_self
    · decide +kernel
    · decide +kernel

end Config

end SocketRelay
