import SocketRelay.Proofs.Supervisor.Statuses

/-!
# Failures of routes

The log has one event for each route that is marked as failed, and no other
(`Supervisor.Logged`). An error that a relay ended with is marked and logged when
its task is joined, and stays so. Until then it is kept in the task, and shutting
down drops it: the route is marked as stopped and nothing is logged
(`Supervisor.Reachable.keepsFailures`).
-/

namespace SocketRelay

open Net

namespace Supervisor

variable {s s' : Supervisor} {i : Nat} {e e' : Entry} {message : String}

/-! ## The log -/

/-- One event for each route that failed. -/
structure Logged (s : Supervisor) : Prop where
  distinct : (s.log.map (·.1)).Nodup
  mem_log : ∀ (i : Nat) (event : Event), (i, event) ∈ s.log ↔
    ∃ e message, s.entries[i]? = some e ∧ e.status = .failed message ∧
      event = e.route.failure message

namespace Logged

theorem absent (h : Logged s) (here : s.entries[i]? = some e)
    (sound : ∀ message, e.status ≠ .failed message) (event : Event) : (i, event) ∉ s.log := by
  intro logged
  obtain ⟨e', message, here', failed, -⟩ := (h.mem_log i event).mp logged
  cases here.symm.trans here'
  exact sound message failed

/-- A route that has not failed is marked in another way in which it has not. -/
theorem mark (h : Logged s) (here : s.entries[i]? = some e)
    (sound : ∀ message, e.status ≠ .failed message)
    (still : ∀ message, e'.status ≠ .failed message) (tasks : List Task) :
    Logged { s with entries := s.entries.set i e', tasks } := by
  refine ⟨h.distinct, fun j event => (h.mem_log j event).trans ?_⟩
  by_cases same : i = j
  · subst same
    simp only [List.getElem?_set_self (List.getElem?_eq_some_iff.mp here).1, here, Option.some_inj]
    constructor
    · rintro ⟨_, message, rfl, failed, -⟩
      exact absurd failed (sound message)
    · rintro ⟨_, message, rfl, failed, -⟩
      exact absurd failed (still message)
  · simp only [List.getElem?_set_ne same]

/-- A route that has not failed is marked as failed, with an event. -/
theorem fail (h : Logged s) (here : s.entries[i]? = some e)
    (sound : ∀ message, e.status ≠ .failed message) (message : String) (tasks : List Task) :
    Logged { s with
      entries := s.entries.set i { e with status := .failed message }
      tasks
      log := s.log ++ [(i, e.route.failure message)] } := by
  refine ⟨?_, fun j event => ?_⟩
  · rw [List.map_append]
    refine List.nodup_append_comm.mpr (List.nodup_cons.mpr ⟨fun logged => ?_, h.distinct⟩)
    obtain ⟨⟨j, event⟩, was, same⟩ := List.mem_map.mp logged
    obtain rfl : j = i := same
    exact h.absent here sound event was
  · show (j, event) ∈ s.log ++ [(i, e.route.failure message)] ↔ _
    rw [List.mem_append, List.mem_singleton, Prod.mk.injEq]
    by_cases same : i = j
    · subst same
      simp only [List.getElem?_set_self (List.getElem?_eq_some_iff.mp here).1, Option.some_inj]
      constructor
      · rintro (logged | ⟨-, rfl⟩)
        · exact absurd logged (h.absent here sound event)
        · exact ⟨_, message, rfl, rfl, rfl⟩
      · rintro ⟨_, _, rfl, failed, rfl⟩
        cases failed
        exact .inr ⟨trivial, rfl⟩
    · simp only [List.getElem?_set_ne same, ← h.mem_log, Ne.symm same, false_and, or_false]

theorem shutdown (h : Logged s) : Logged s.shutdown := by
  refine ⟨h.distinct, fun i event => (h.mem_log i event).trans ?_⟩
  simp only [Supervisor.shutdown, List.getElem?_map]
  cases s.entries[i]? with
  | none => simp
  | some e =>
    simp only [Option.map_some, Option.some_inj]
    cases status : e.status <;> simp [status, Status.isRunning]

theorem act (h : Logged s) (tended : Tended s) {a : Action} (act : s.act a = some s') :
    Logged s' := by
  obtain ⟨k, i, outcome, -, going, rfl⟩ | ⟨k, i, outcome, -, ended, rfl⟩ | ⟨-, rfl⟩ := act_cases act
  · exact ⟨h.distinct, h.mem_log⟩
  · obtain ⟨e, here, runs⟩ := tended.running_of_task ended
    have sound : ∀ message, e.status ≠ .failed message := fun message failed => by
      rw [Status.isRunning_iff.mp runs] at failed
      cases failed
    rw [settle_eq (s := { s with tasks := s.tasks.eraseIdx k }) here]
    cases outcome with
    | ok _ =>
      rw [noted, List.append_nil]
      exact h.mark here sound (fun _ failed => by cases failed) _
    | error message => exact h.fail here sound message _
  · exact h.shutdown

theorem startAll (c : Config) (cores : UInt64) (now : Instant)
    (sockets : Nat → Except IoError Endpoint) :
    Logged ((ofConfig c).startAll cores now sockets) := by
  have size : (Supervisor.ofConfig c).entries.length = c.routes.length := List.length_map _
  refine (startAll_induction (fun k t => Started c sockets k t ∧ Logged t)
    ⟨Started.ofConfig c sockets, List.nodup_nil, fun i event => ?_⟩ fun k t inside h => ?_).2
  · refine ⟨fun h => absurd h List.not_mem_nil, ?_⟩
    rintro ⟨e, message, here, failed, -⟩
    have fresh := (Started.ofConfig c sockets).fresh i (Nat.zero_le i)
    cases listed : c.routes[i]? <;> rw [listed, here] at fresh <;> cases fresh
    cases failed
  · obtain ⟨started, logged⟩ := h
    rw [size] at inside
    refine ⟨started.startRoute inside, ?_⟩
    have here := started.fresh k (Nat.le_refl k)
    rw [List.getElem?_eq_getElem inside] at here
    obtain ⟨message, -, eq⟩ | ⟨relay, -, eq⟩ := startRoute_cases cores now (sockets k) here rfl
    · rw [eq]
      exact logged.fail here (fun _ failed => by cases failed) message _
    · rw [eq]
      exact logged.mark here (fun _ failed => by cases failed) (fun _ failed => by cases failed) _

end Logged

theorem Reachable.logged {start : Supervisor} (tended : Tended start) (h : Logged start)
    (reached : Reachable start s) : Logged s := by
  induction reached with
  | start => exact h
  | step before act ih => exact ih.act (before.tended tended) act

/-! ## Errors that relays ended with -/

deriving instance DecidableEq for Except
deriving instance DecidableEq for Task

/-- The failure of a route is marked and logged. -/
def Recorded (s : Supervisor) (i : Nat) (message : String) : Prop :=
  ∃ e, s.entries[i]? = some e ∧ e.status = .failed message ∧
    (i, e.route.failure message) ∈ s.log

/-- The relay of a route ended with an error and its task is not joined. -/
def Pending (s : Supervisor) (i : Nat) (message : String) : Prop :=
  ⟨i, some (.error message)⟩ ∈ s.tasks

instance (s : Supervisor) (i : Nat) (message : String) : Decidable (Pending s i message) :=
  inferInstanceAs (Decidable (_ ∈ s.tasks))

/-- The route is marked as stopped and nothing is logged about it. -/
def Forgotten (s : Supervisor) (i : Nat) : Prop :=
  ∃ e, s.entries[i]? = some e ∧ e.status = .stopped ∧ ∀ event, (i, event) ∉ s.log

theorem Recorded.follows (h : Recorded s i message) (follows : Follows s s') (logged : Logged s') :
    Recorded s' i message := by
  obtain ⟨e, here, failed, -⟩ := h
  obtain ⟨e', here', into⟩ := follows.entries i e here
  rw [into.settled (by rw [failed]; exact Status.noConfusion)] at here'
  exact ⟨e, here', failed, (logged.mem_log i _).mpr ⟨e, message, here', failed, rfl⟩⟩

namespace Pending

/-- Joining the task puts the failure on record. -/
theorem join (tended : Tended s) {k : Nat} (ended : s.tasks[k]? = some ⟨i, some (.error message)⟩)
    (act : s.act (.join k) = some s') : Recorded s' i message := by
  obtain ⟨e, here, -⟩ := tended.running_of_task ended
  simp only [Supervisor.act, ended, Option.some_inj] at act
  rw [← act, settle_eq (s := { s with tasks := s.tasks.eraseIdx k }) here]
  refine ⟨_, List.getElem?_set_self (List.getElem?_eq_some_iff.mp here).1, rfl, ?_⟩
  exact List.mem_append_right _ (List.mem_singleton_self _)

/-- Short of a shutdown the error is kept, in the task or on record. -/
theorem act (h : Pending s i message) (tended : Tended s) {a : Action}
    (act : s.act a = some s') (on : a ≠ .shutdown) :
    Pending s' i message ∨ Recorded s' i message := by
  obtain ⟨k, place⟩ := List.mem_iff_getElem?.mp h
  obtain ⟨k', i', outcome, -, going, rfl⟩ | ⟨k', i', outcome, join, ended, eq⟩ | ⟨shut, -⟩ :=
    act_cases act
  · refine .inl (List.mem_iff_getElem?.mpr ⟨k, ?_⟩)
    rw [List.getElem?_set_ne, place]
    rintro rfl
    cases place.symm.trans going
  · by_cases same : k' = k
    · subst same
      rw [join] at act
      exact .inr (Pending.join tended place act)
    · have tasks : s'.tasks = s.tasks.eraseIdx k' := by rw [eq, settle_withTasks]
      rw [Pending, tasks, List.mem_eraseIdx_iff_getElem?]
      exact .inl ⟨k, Ne.symm same, place⟩
  · exact absurd shut on

/-- Shutting down drops it. -/
theorem shutdown (h : Pending s i message) (tended : Tended s) (logged : Logged s) :
    Forgotten s.shutdown i := by
  obtain ⟨k, place⟩ := List.mem_iff_getElem?.mp h
  obtain ⟨e, here, runs⟩ := tended.running_of_task place
  refine ⟨{ e with status := .stopped }, ?_, rfl, ?_⟩
  · rw [Supervisor.shutdown, List.getElem?_map, here, Option.map_some, if_pos runs]
  · exact logged.absent here fun message failed => by
      rw [Status.isRunning_iff.mp runs] at failed
      cases failed

end Pending

theorem Forgotten.follows (h : Forgotten s i) (follows : Follows s s') (logged : Logged s') :
    Forgotten s' i := by
  obtain ⟨e, here, stopped, -⟩ := h
  obtain ⟨e', here', into⟩ := follows.entries i e here
  rw [into.settled (by rw [stopped]; exact Status.noConfusion)] at here'
  exact ⟨e, here', stopped, logged.absent here' fun message failed => by
    rw [stopped] at failed
    cases failed⟩

theorem Pending.run (h : Pending s i message) (tended : Tended s) (logged : Logged s)
    {actions : List Action} (run : s.run? actions = some s') :
    Pending s' i message ∨ Recorded s' i message ∨
      .shutdown ∈ actions ∧ Forgotten s' i := by
  induction actions generalizing s with
  | nil => cases run; exact .inl h
  | cons a actions ih =>
    obtain ⟨t, act, rest⟩ := Option.bind_eq_some_iff.mp run
    have tended' := tended.act act
    have logged' := logged.act tended act
    have later := Reachable.start.run? rest
    by_cases shut : a = .shutdown
    · subst shut
      cases act
      refine .inr (.inr ⟨List.mem_cons_self, ?_⟩)
      exact (h.shutdown tended logged).follows (later.follows tended')
        (later.logged tended' logged')
    · obtain kept | recorded := h.act tended act shut
      · obtain pending | recorded | ⟨shut', forgotten⟩ := ih kept tended' logged' rest
        · exact .inl pending
        · exact .inr (.inl recorded)
        · exact .inr (.inr ⟨List.mem_cons_of_mem _ shut', forgotten⟩)
      · exact .inr (.inl (recorded.follows (later.follows tended') (later.logged tended' logged')))

/-- What becomes of failures: those at the start are logged, those that are joined are logged and
stay, those that wait for being joined stay or are joined unless everything is shut down. -/
structure KeepsFailures (s : Supervisor) : Prop where
  logged : Logged s
  joined : ∀ k i message s', s.tasks[k]? = some ⟨i, some (.error message)⟩ →
    s.act (.join k) = some s' → ∀ s'', Reachable s' s'' → Recorded s'' i message
  waiting : ∀ i message, Pending s i message → ∀ actions s', s.run? actions = some s' →
    Pending s' i message ∨ Recorded s' i message ∨ .shutdown ∈ actions ∧ Forgotten s' i
  dropped : ∀ i message, Pending s i message → ∀ s', Reachable s.shutdown s' → Forgotten s' i
  shutdown : ∀ (i : Nat) (e : Entry), s.entries[i]? = some e → s.shutdown.entries[i]? =
    some (if e.status = .running then { e with status := .stopped } else e)

theorem Reachable.keepsFailures {c : Config} {cores : UInt64} {now : Instant}
    {sockets : Nat → Except IoError Endpoint}
    (reached : Reachable ((ofConfig c).startAll cores now sockets) s) : KeepsFailures s := by
  have started := (Started.startAll c cores now sockets).tended
  have tended := reached.tended started
  have logged := reached.logged started (Logged.startAll c cores now sockets)
  refine ⟨logged, ?_, ?_, ?_, ?_⟩
  · intro k i message s' ended act s'' later
    have tended' := tended.act act
    exact (Pending.join tended ended act).follows (later.follows tended')
      (later.logged tended' (logged.act tended act))
  · exact fun i message h actions s' run => h.run tended logged run
  · intro i message h s' later
    exact (h.shutdown tended logged).follows (later.follows (.shutdown s))
      (later.logged (.shutdown s) logged.shutdown)
  · intro i e here
    rw [Supervisor.shutdown, List.getElem?_map, here, Option.map_some]
    cases status : e.status <;> rfl

theorem keepsFailures_gone : ∃ s,
    Reachable ((ofConfig threeRoutes).startAll 1 .zero secondTaken) s ∧
    Pending s 2 "gone" ∧ KeepsFailures s := by
  have run : (((ofConfig threeRoutes).startAll 1 .zero secondTaken).run?
      (joinedActions.take 2)).any (fun s => decide (Pending s 2 "gone")) = true := by
    decide +kernel
  obtain ⟨s, run, pending⟩ := (Option.any_eq_true _ _).mp run
  have reached := Reachable.start.run? run
  exact ⟨s, reached, of_decide_eq_true pending, reached.keepsFailures⟩

/-- A relay whose channels are too large to be made. -/
def crowdedRoute : Config where
  udp := { eventQueue := 4611686018427387904 }
  routes := [{
    protocol := .udp
    bindAddress := .v4 ⟨127, 0, 0, 1⟩
    localPort := 0
    remoteHost := "127.0.0.1"
    remotePort := 9 }]

/-- Its relay panics at once, and a shutdown comes before the task is joined. -/
theorem shutdown_forgets : ∃ s s' : Supervisor,
    Reachable ((ofConfig crowdedRoute).startAll 1 .zero fun _ => .ok (.v4 ⟨127, 0, 0, 1⟩ 40000)) s ∧
    Pending s 0 "relay task aborted: task 3 panicked" ∧
    s.act .shutdown = some s' ∧ s'.entries.map (·.status) = [.stopped] ∧ s'.events = [] := by
  refine ⟨_, _, Reachable.start.step (a := .panicked 0 "task 3 panicked") rfl, ?_, rfl, ?_, ?_⟩
  · decide +kernel
  · decide +kernel
  · decide +kernel

end Supervisor

end SocketRelay
