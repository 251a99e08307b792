import SocketRelay.Proofs.Udp.Moves
import SocketRelay.Supervisor

/-!
# What a supervisor does to its entries

Starting a route changes the entry of that route only, and what it becomes
depends on the route's own settings and its own socket
(`RouteRelay.start_cases`, `Supervisor.startRoute_cases`). After that an entry
changes when its task is joined and when everything is shut down
(`Supervisor.act_cases`, `Supervisor.settle_eq`).
-/

namespace SocketRelay

open Net

/-! ## Starting a relay -/

theorem Tcp.Listener.bind_eq (text target : String) (settings : Settings)
    (socket : Except IoError Endpoint) :
    bind text target settings socket =
      match settings.check, socket with
      | .error e, _ => .error e
      | .ok (), .error cause => .error (.bind text cause)
      | .ok (), .ok listen => .ok ⟨listen, target, settings⟩ := by
  unfold bind
  cases settings.check <;> cases socket <;> rfl

theorem Udp.Listener.bind_eq (text target : String) (settings : Settings)
    (socket : Except IoError Endpoint) :
    bind text target settings socket =
      match settings.check, socket with
      | .error e, _ => .error e
      | .ok (), .error cause => .error (.bind text cause)
      | .ok (), .ok listen => .ok ⟨listen, target, settings⟩ := by
  unfold bind
  cases settings.check <;> cases socket <;> rfl

def Config.fit (c : Config) : Protocol → Except String Unit
  | .tcp => c.tcp.check.mapError (·.message)
  | .udp => c.udp.check.mapError (·.message)

def Config.binds (c : Config) (r : Route) (socket : Except IoError Endpoint) : Bool :=
  (c.fit r.protocol).isOk && socket.isOk

def RouteRelay.protocol : RouteRelay → Protocol
  | tcp _ => .tcp
  | udp _ | udpEnded .. => .udp

theorem RouteRelay.startUdp_cases (l : Udp.Listener) (cores : UInt64) (now : Instant) :
    (∃ relay, l.start? cores Udp.Payload.maxBuffer now = some relay ∧
      startUdp l cores now = .udp relay) ∨
    (l.start? cores Udp.Payload.maxBuffer now = none ∧
      startUdp l cores now = .udpEnded l.listen (l.lastWords cores)) := by
  unfold startUdp
  split
  · next relay began => exact .inl ⟨relay, began, rfl⟩
  · next never => exact .inr ⟨never, rfl⟩

/-- A relay starts if its settings are fit and its listener can be bound, whatever else there is. -/
theorem RouteRelay.start_cases (c : Config) (cores : UInt64) (now : Instant) (r : Route)
    (socket : Except IoError Endpoint) :
    (∃ message, c.fit r.protocol = .error message ∧
      start c cores now r socket = .error message) ∨
    (c.fit r.protocol = .ok () ∧ ∃ cause, socket = .error cause ∧
      start c cores now r socket = .error s!"failed to bind to {r.listenAddress}: {cause}") ∨
    (c.fit r.protocol = .ok () ∧ ∃ listen relay, socket = .ok listen ∧
      start c cores now r socket = .ok relay ∧ relay.protocol = r.protocol ∧
      relay.listen = listen) := by
  unfold start Config.fit
  cases r.protocol with
  | tcp =>
    simp only [Tcp.Listener.bind_eq]
    cases c.tcp.check with
    | error e => exact .inl ⟨_, rfl, rfl⟩
    | ok _ =>
      cases socket with
      | error cause => exact .inr (.inl ⟨rfl, cause, rfl, rfl⟩)
      | ok listen => exact .inr (.inr ⟨rfl, listen, _, rfl, rfl, rfl, rfl⟩)
  | udp =>
    simp only [Udp.Listener.bind_eq]
    cases c.udp.check with
    | error e => exact .inl ⟨_, rfl, rfl⟩
    | ok _ =>
      cases socket with
      | error cause => exact .inr (.inl ⟨rfl, cause, rfl, rfl⟩)
      | ok listen =>
        refine .inr (.inr ⟨rfl, listen, _, rfl, rfl, ?_⟩)
        obtain ⟨relay, began, eq⟩ | ⟨-, eq⟩ :=
          startUdp_cases ⟨listen, r.targetAddress, c.udp⟩ cores now
        · rw [eq]
          exact ⟨rfl, Udp.Listener.listen_of_start? began⟩
        · rw [eq]
          exact ⟨rfl, rfl⟩

theorem Status.isRunning_iff {s : Status} : s.isRunning = true ↔ s = .running := by
  cases s <;> simp [isRunning]

def Status.ofOutcome : Except String Unit → Status
  | .ok () => .stopped
  | .error message => .failed message

def Route.failure (r : Route) (message : String) : Event :=
  .relayFailed r.protocol r.listenAddress message

namespace Supervisor

variable {s s' : Supervisor} {i : Nat} {e : Entry}

/-- What starting a route makes of its entry. -/
structure StartedAs (c : Config) (r : Route) (socket : Except IoError Endpoint) (e : Entry) :
    Prop where
  route : e.route = r
  unfit : ∀ message, c.fit r.protocol = .error message →
    e.status = .failed message ∧ e.relay = none
  unbound : ∀ cause, c.fit r.protocol = .ok () → socket = .error cause →
    e.status = .failed s!"failed to bind to {r.listenAddress}: {cause}" ∧ e.relay = none
  bound : ∀ listen, c.fit r.protocol = .ok () → socket = .ok listen →
    e.status = .running ∧
    ∃ relay, e.relay = some relay ∧ relay.protocol = r.protocol ∧ relay.listen = listen

theorem StartedAs.isRunning {c : Config} {r : Route} {socket : Except IoError Endpoint}
    (h : StartedAs c r socket e) : e.status.isRunning = c.binds r socket := by
  unfold Config.binds
  cases fit : c.fit r.protocol with
  | error message => rw [(h.unfit _ fit).1]; rfl
  | ok _ =>
    cases bound : socket with
    | error cause => rw [(h.unbound _ fit bound).1]; rfl
    | ok listen => rw [(h.bound _ fit bound).1]; rfl

/-- Starting a route that was not started before. -/
theorem startRoute_cases (cores : UInt64) (now : Instant) (socket : Except IoError Endpoint)
    (here : s.entries[i]? = some e) (fresh : e.relay = none) :
    (∃ message, StartedAs s.config e.route socket { e with status := .failed message } ∧
      s.startRoute cores now i socket =
        { s with
          entries := s.entries.set i { e with status := .failed message }
          log := s.log ++ [(i, e.route.failure message)] }) ∨
    (∃ relay, StartedAs s.config e.route socket { e with status := .running, relay := some relay } ∧
      s.startRoute cores now i socket =
        { s with
          entries := s.entries.set i { e with status := .running, relay := some relay }
          tasks := s.tasks ++ [⟨i, none⟩] }) := by
  simp only [startRoute, here]
  obtain ⟨message, unfit, start⟩ | ⟨fit, cause, unbound, start⟩ |
    ⟨fit, listen, relay, bound, start, speaks, listens⟩ :=
    RouteRelay.start_cases s.config cores now e.route socket <;> rw [start]
  · refine .inl ⟨message, ⟨rfl, fun m h => ?_, fun _ h => ?_, fun _ h => ?_⟩, rfl⟩
    · rw [unfit] at h
      cases h
      exact ⟨rfl, fresh⟩
    · rw [unfit] at h; cases h
    · rw [unfit] at h; cases h
  · refine .inl ⟨_, ⟨rfl, fun _ h => ?_, fun _ _ h => ?_, fun _ _ h => ?_⟩, rfl⟩
    · rw [fit] at h; cases h
    · rw [unbound] at h
      cases h
      exact ⟨rfl, fresh⟩
    · rw [unbound] at h; cases h
  · refine .inr ⟨relay, ⟨rfl, fun _ h => ?_, fun _ _ h => ?_, fun _ _ h => ?_⟩, ?_⟩
    · rw [fit] at h; cases h
    · rw [bound] at h; cases h
    · rw [bound] at h
      cases h
      exact ⟨rfl, relay, rfl, speaks, listens⟩
    · simp only [setEntry, Entry.events, fresh, Option.elim_none, List.map_nil, List.append_nil]

/-- What holds of the routes from the first to the last holds when all are started. -/
theorem startAll_induction {cores : UInt64} {now : Instant}
    {sockets : Nat → Except IoError Endpoint} (motive : Nat → Supervisor → Prop)
    (before : motive 0 s)
    (route : ∀ k t, k < s.entries.length → motive k t →
      motive (k + 1) (t.startRoute cores now k (sockets k))) :
    motive s.entries.length (s.startAll cores now sockets) := by
  suffices upTo : ∀ k ≤ s.entries.length, motive k
      ((List.range k).foldl (fun s i => s.startRoute cores now i (sockets i)) s) from
    upTo _ (Nat.le_refl _)
  intro k inside
  induction k with
  | zero => exact before
  | succ k ih =>
    rw [List.range_succ, List.foldl_append]
    exact route k _ inside (ih (by omega))

/-! ## Actions -/

def noted (i : Nat) (r : Route) : Except String Unit → List (Nat × Event)
  | .ok () => []
  | .error message => [(i, r.failure message)]

theorem settle_eq (here : s.entries[i]? = some e) (outcome : Except String Unit) :
    s.settle i outcome =
      { s with
        entries := s.entries.set i { e with status := .ofOutcome outcome }
        log := s.log ++ noted i e.route outcome } := by
  simp only [settle, here]
  cases outcome with
  | ok _ => simp only [setEntry, noted, List.append_nil]; rfl
  | error message => rfl

theorem leave_eq_some {k : Nat} {outcome : Except String Unit} (h : s.leave k outcome = some s') :
    ∃ i, s.tasks[k]? = some ⟨i, none⟩ ∧
      s' = { s with tasks := s.tasks.set k ⟨i, some outcome⟩ } := by
  unfold leave at h
  split at h
  · next i going => cases h; exact ⟨i, going, rfl⟩
  · cases h

theorem act_cases {a : Action} (h : s.act a = some s') :
    (∃ k i outcome, (a = .ended k outcome ∨
        ∃ reason, a = .panicked k reason ∧ outcome = .error s!"relay task aborted: {reason}") ∧
      s.tasks[k]? = some ⟨i, none⟩ ∧
      s' = { s with tasks := s.tasks.set k ⟨i, some outcome⟩ }) ∨
    (∃ k i outcome, a = .join k ∧ s.tasks[k]? = some ⟨i, some outcome⟩ ∧
      s' = { s with tasks := s.tasks.eraseIdx k }.settle i outcome) ∨
    (a = .shutdown ∧ s' = s.shutdown) := by
  cases a with
  | ended k outcome =>
    obtain ⟨i, left⟩ := leave_eq_some h
    exact .inl ⟨k, i, outcome, .inl rfl, left⟩
  | panicked k reason =>
    obtain ⟨i, left⟩ := leave_eq_some h
    exact .inl ⟨k, i, _, .inr ⟨reason, rfl, rfl⟩, left⟩
  | join k =>
    simp only [act] at h
    split at h
    · next i outcome ended => cases h; exact .inr (.inl ⟨k, i, outcome, rfl, ended, rfl⟩)
    · cases h
  | shutdown => cases h; exact .inr (.inr ⟨rfl, rfl⟩)

def run? (s : Supervisor) (actions : List Action) : Option Supervisor := actions.foldlM act s

theorem Reachable.run? {start : Supervisor} (reached : Reachable start s) {actions : List Action}
    (h : s.run? actions = some s') : Reachable start s' := by
  induction actions generalizing s with
  | nil => cases h; exact reached
  | cons a actions ih =>
    obtain ⟨t, first, rest⟩ := Option.bind_eq_some_iff.mp h
    exact ih (reached.step first) rest

end Supervisor

end SocketRelay
