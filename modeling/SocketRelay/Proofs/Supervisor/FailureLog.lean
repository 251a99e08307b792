import SocketRelay.Proofs.Supervisor.Failures
import SocketRelay.Proofs.Tcp.EventLog
import SocketRelay.Proofs.Udp.SessionLog

/-!
# The events of routes that failed

What a supervisor logs and the entries that are marked as failed correspond one
to one: for each of them the log has one event, with the protocol and the listen
address of the route and the message of the mark, and it has no other
(`Supervisor.Logged.perm`). The relays log into the same place, and none of them
ever logs that its route failed (`RouteRelay.Silent`), so these are all such
events. Main statement: `Supervisor.Reachable.logsFailures`.
-/

namespace SocketRelay

open Net

def Event.isRouteFailure : Event → Bool
  | .relayFailed .. => true
  | _ => false

/-! ## Relays -/

namespace Tcp.Relay

theorem isRouteFailure_of_isTraffic {event : Event} (h : isTraffic event = true) :
    event.isRouteFailure = false := by
  cases event with
  | relayFailed => cases h
  | _ => rfl

/-- A relay does not say that its route failed. -/
theorem Reachable.silent {l : Listener} {cores : UInt64} {r : Relay}
    (reached : Reachable (l.start cores) r) : ∀ event ∈ r.events, event.isRouteFailure = false := by
  suffices records : ∀ record ∈ r.log, record.event.isRouteFailure = false from
    List.forall_mem_map.mpr records
  refine reached.keeps (P := fun r => ∀ record ∈ r.log, record.event.isRouteFailure = false)
    (fun _ m h => ?_) (List.forall_mem_singleton.mpr rfl)
  obtain ⟨more, log, traffic⟩ := m.log
  rw [log]
  exact List.forall_mem_append.mpr ⟨h, fun record mem =>
    isRouteFailure_of_isTraffic (traffic record mem)⟩

end Tcp.Relay

namespace Udp

open Engine

variable {e e' : Engine} {now : Instant}

def Engine.Silent (e : Engine) : Prop := e.log.filter (·.isRouteFailure) = []

namespace Engine.Silent

theorem append (h : e.Silent) {more : List Event} (log : e'.log = e.log ++ more)
    (other : more.filter (·.isRouteFailure) = []) : e'.Silent := by
  rw [Silent, log, List.filter_append, h, other, List.append_nil]

theorem apply (h : e.Silent) (s : Session) (effect : Effect) : (e.apply now s effect).Silent := by
  rw [Silent, ← List.filterMap_eq_filter] at h ⊢
  exact (filterMap_log_apply (fun _ _ _ => rfl) (fun _ _ => rfl) e now s effect).trans h

theorem move (m : Move now e e') (h : e.Silent) : e'.Silent := by
  cases m with
  | received | resolved | stopped | reportTaken => exact h
  | readFailed | stalled | created => exact h.append rfl rfl
  | @refused d error absent =>
    have log : (e.refuse now d error).log = e.log ++ [e.openFailure d.source error] := rfl
    refine h.append log ?_
    unfold openFailure
    split <;> rfl
  | enqueued live =>
    refine h.append (log_enqueue _) ?_
    split <;> rfl
  | swept live | reported live => rw [evict_eq live]; exact h.append rfl rfl
  | @stepped key s s' => exact apply (e := e.update key fun _ => s') h _ _
  | @drained index s s' => exact apply (e := { e with removed := e.removed.set index s' }) h _ _

end Engine.Silent

theorem Relay.Reachable.silent {l : Listener} {cores : UInt64} {memory : Nat} {began t : Instant}
    {start r : Relay} (started : l.start? cores memory began = some start)
    (reached : Reachable start t r) : ∀ event ∈ r.engine.log, event.isRouteFailure = false := by
  have silent : r.engine.Silent := by
    refine reached.keeps (P := fun _ e => e.Silent) (fun _ h => h) (fun m h => h.move m) fun _ => ?_
    rw [Listener.engine_of_start? started]
    rfl
  intro event mem
  exact Bool.eq_false_iff.mpr (List.filter_eq_nil_iff.mp silent event mem)

end Udp

/-- However the relay goes on, it does not log that its route failed. -/
def RouteRelay.Silent : RouteRelay → Prop
  | .tcp relay => ∀ r, Tcp.Relay.Reachable relay r → ∀ event ∈ r.events,
    event.isRouteFailure = false
  | .udp relay => ∀ t r, Udp.Relay.Reachable relay t r →
    ∀ event ∈ r.engine.log, event.isRouteFailure = false
  | .udpEnded _ log => ∀ event ∈ log, event.isRouteFailure = false

theorem RouteRelay.silent_of_start {c : Config} {cores : UInt64} {now : Instant} {r : Route}
    {socket : Except IoError Endpoint} {relay : RouteRelay}
    (started : start c cores now r socket = .ok relay) : relay.Silent := by
  unfold start at started
  split at started
  · split at started
    · cases started; exact fun r reached => reached.silent
    · cases started
  · split at started
    · next l _ =>
      cases started
      obtain ⟨relay, began, eq⟩ | ⟨-, eq⟩ := startUdp_cases l cores now
      · rw [eq]
        exact fun t r reached => reached.silent began
      · rw [eq]
        intro event mem
        cases l.eq_started_of_mem_lastWords mem
        rfl
    · cases started

def Entry.failure? (e : Entry) : Option Event :=
  match e.status with
  | .failed message => some (.relayFailed e.route.protocol e.route.listenAddress message)
  | _ => none

theorem Entry.failure?_eq_some {e : Entry} {event : Event} : e.failure? = some event ↔
    ∃ message, e.status = .failed message ∧ event = e.route.failure message := by
  unfold failure?
  cases e.status with
  | failed message => simp [Route.failure, eq_comm]
  | _ => simp

namespace Supervisor

variable {s s' : Supervisor} {i : Nat}

/-- The relays of all entries are silent about failures of routes. -/
def RelaysSilent (s : Supervisor) : Prop :=
  ∀ e ∈ s.entries, ∀ relay, e.relay = some relay → relay.Silent

namespace RelaysSilent

theorem set (h : RelaysSilent s) (e' : Entry)
    (silent : ∀ relay, e'.relay = some relay → relay.Silent) (tasks : List Task)
    (log : List (Nat × Event)) :
    RelaysSilent { s with entries := s.entries.set i e', tasks, log } := by
  intro e mem
  rcases List.mem_or_eq_of_mem_set mem with mem | rfl
  · exact h e mem
  · exact silent

theorem startRoute (h : RelaysSilent s) (cores : UInt64) (now : Instant) (i : Nat)
    (socket : Except IoError Endpoint) : RelaysSilent (s.startRoute cores now i socket) := by
  unfold Supervisor.startRoute
  split
  · exact h
  · next e here =>
    split
    · exact h.set { e with status := .failed _ } (h e (List.mem_of_getElem? here)) _ _
    · next relay started =>
      refine h.set { e with status := .running, relay := some relay } (fun relay' same => ?_) _ _
      cases same
      exact RouteRelay.silent_of_start started

theorem startAll (c : Config) (cores : UInt64) (now : Instant)
    (sockets : Nat → Except IoError Endpoint) :
    RelaysSilent ((ofConfig c).startAll cores now sockets) := by
  refine startAll_induction (fun _ => RelaysSilent) ?_ fun k t _ h => h.startRoute cores now k _
  intro e mem relay has
  obtain ⟨r, -, rfl⟩ := List.mem_map.mp mem
  cases has

theorem follows (h : RelaysSilent s) (follows : Follows s s') : RelaysSilent s' := by
  intro e' mem relay has
  obtain ⟨i, inside, rfl⟩ := List.mem_iff_getElem.mp mem
  have before := List.getElem?_eq_getElem (follows.size ▸ inside)
  obtain ⟨e, here, into⟩ := follows.entries i _ before
  cases (List.getElem?_eq_getElem inside).symm.trans here
  exact h _ (List.mem_of_getElem? before) relay (into.relay.symm.trans has)

end RelaysSilent

/-! ## The log of the supervisor -/

def failures (s : Supervisor) : List (Nat × Event) :=
  (List.range s.entries.length).filterMap fun i => (s.entries[i]?.bind Entry.failure?).map (i, ·)

theorem mem_failures {event : Event} : (i, event) ∈ s.failures ↔
    ∃ e, s.entries[i]? = some e ∧ e.failure? = some event := by
  simp only [failures, List.mem_filterMap, List.mem_range, Option.map_eq_some_iff,
    Option.bind_eq_some_iff, Prod.mk.injEq]
  constructor
  · rintro ⟨i, -, event, ⟨e, here, failed⟩, rfl, rfl⟩
    exact ⟨e, here, failed⟩
  · rintro ⟨e, here, failed⟩
    exact ⟨i, (List.getElem?_eq_some_iff.mp here).1, event, ⟨e, here, failed⟩, rfl, rfl⟩

theorem nodup_failures (s : Supervisor) : s.failures.Nodup := by
  refine List.Nodup.filterMap (fun i j logged here there => ?_) List.nodup_range
  obtain ⟨_, -, rfl⟩ := Option.map_eq_some_iff.mp here
  obtain ⟨_, -, same⟩ := Option.map_eq_some_iff.mp there
  exact (congrArg Prod.fst same).symm

/-- The log has the events of the failed entries, once each. -/
theorem Logged.perm (h : Logged s) : s.log.Perm s.failures := by
  rw [List.perm_ext_iff_of_nodup h.distinct.of_map s.nodup_failures]
  rintro ⟨i, event⟩
  rw [h.mem_log, mem_failures]
  constructor
  · rintro ⟨e, message, here, failed, rfl⟩
    exact ⟨e, here, Entry.failure?_eq_some.mpr ⟨message, failed, rfl⟩⟩
  · rintro ⟨e, here, failed⟩
    obtain ⟨message, marked, rfl⟩ := Entry.failure?_eq_some.mp failed
    exact ⟨e, message, here, marked, rfl⟩

/-- After any actions the supervisor has logged each failure that is marked, once, and the relays
have logged none and never will. -/
theorem Reachable.logsFailures {c : Config} {cores : UInt64} {now : Instant}
    {sockets : Nat → Except IoError Endpoint}
    (reached : Reachable ((ofConfig c).startAll cores now sockets) s) :
    s.log.Perm s.failures ∧ RelaysSilent s := by
  have tended := (Started.startAll c cores now sockets).tended
  have logged := reached.logged tended (Logged.startAll c cores now sockets)
  exact ⟨logged.perm, (RelaysSilent.startAll c cores now sockets).follows (reached.follows tended)⟩

/-- A listener could not be bound, and a relay ended with an error. -/
theorem logsFailures_mixed : ∃ s,
    Reachable ((ofConfig threeRoutes).startAll 1 .zero secondTaken) s ∧
    s.failures = [
      (1, .relayFailed .tcp "0.0.0.0:8080"
        "failed to bind to 0.0.0.0:8080: Address already in use (os error 98)"),
      (2, .relayFailed .udp "0.0.0.0:5353" "gone")] ∧
    s.log.Perm s.failures ∧ RelaysSilent s := by
  have run : (((ofConfig threeRoutes).startAll 1 .zero secondTaken).run? joinedActions).any
      (fun s => decide (s.failures = [
        (1, .relayFailed .tcp "0.0.0.0:8080"
          "failed to bind to 0.0.0.0:8080: Address already in use (os error 98)"),
        (2, .relayFailed .udp "0.0.0.0:5353" "gone")])) = true := by
    decide +kernel
  obtain ⟨s, run, listed⟩ := (Option.any_eq_true _ _).mp run
  have reached := Reachable.start.run? run
  exact ⟨s, reached, of_decide_eq_true listed, reached.logsFailures⟩

end Supervisor

end SocketRelay
