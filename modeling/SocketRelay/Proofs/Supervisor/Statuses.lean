import SocketRelay.Proofs.Supervisor.Entries
import Mathlib.Data.List.Nodup
import Mathlib.Data.List.Perm.Basic

/-!
# Statuses of routes

After a supervisor has started its routes, the tasks that it has not joined
belong to the routes that are marked as running, one each (`Supervisor.Tended`).
Every action keeps this, so nothing is running once there is no task to wait for.
An entry that is not running does not change any more. Main statement:
`Supervisor.Reachable.supervised`.
-/

namespace SocketRelay

open Net

namespace Supervisor

variable {s s' : Supervisor} {i : Nat} {e e' : Entry}

def serves (s : Supervisor) (i : Nat) : Bool := s.entries[i]?.any (·.status.isRunning)

def serving (s : Supervisor) : List Nat := (List.range s.entries.length).filter s.serves

theorem lt_of_serves (h : s.serves i = true) : i < s.entries.length := by
  by_contra outside
  rw [serves, List.getElem?_eq_none (by omega)] at h
  cases h

theorem mem_serving : i ∈ s.serving ↔ s.serves i = true := by
  rw [serving, List.mem_filter, List.mem_range]
  exact ⟨fun h => h.2, fun h => ⟨lt_of_serves h, h⟩⟩

theorem nodup_serving (s : Supervisor) : s.serving.Nodup := List.nodup_range.filter _

theorem serves_eq (here : s.entries[i]? = some e) : s.serves i = e.status.isRunning := by
  rw [serves, here]
  rfl

theorem running_eq_zero (none : ∀ i, s.serves i = false) : s.running = 0 := by
  refine List.countP_eq_zero.mpr fun e mem runs => ?_
  obtain ⟨i, here⟩ := List.mem_iff_getElem?.mp mem
  have idle := none i
  rw [serves_eq here, runs] at idle
  cases idle

theorem serves_set (here : s.entries[i]? = some e) (e' : Entry) (j : Nat) :
    { s with entries := s.entries.set i e' }.serves j =
      if j = i then e'.status.isRunning else s.serves j := by
  have inside := (List.getElem?_eq_some_iff.mp here).1
  simp only [serves, List.getElem?_set]
  by_cases same : i = j
  · subst same
    rw [if_pos rfl, if_pos inside, if_pos rfl]
    rfl
  · rw [if_neg same, if_neg (Ne.symm same)]

/-- The tasks that are left are those of the running routes. -/
structure Tended (s : Supervisor) : Prop where
  distinct : (s.tasks.map (·.route)).Nodup
  serves : ∀ i, i ∈ s.tasks.map (·.route) ↔ s.serves i = true

namespace Tended

theorem perm (h : Tended s) : (s.tasks.map (·.route)).Perm s.serving := by
  rw [List.perm_ext_iff_of_nodup h.distinct s.nodup_serving]
  intro i
  rw [h.serves, mem_serving]

/-- A task that is left is of a route that runs. -/
theorem running_of_task (h : Tended s) {k : Nat} {outcome : Option (Except String Unit)}
    (left : s.tasks[k]? = some ⟨i, outcome⟩) :
    ∃ e, s.entries[i]? = some e ∧ e.status.isRunning = true := by
  have runs : s.serves i = true :=
    (h.serves i).mp (List.mem_map.mpr ⟨_, List.mem_of_getElem? left, rfl⟩)
  have here := List.getElem?_eq_getElem (lt_of_serves runs)
  exact ⟨_, here, (serves_eq here).symm.trans runs⟩

/-- A route that does not run is marked in another way in which it does not. -/
theorem mark (h : Tended s) (here : s.entries[i]? = some e) (idle : e.status.isRunning = false)
    (still : e'.status.isRunning = false) (log : List (Nat × Event)) :
    Tended { s with entries := s.entries.set i e', log } := by
  have was : s.serves i = false := (serves_eq here).trans idle
  refine ⟨h.distinct, fun j => ?_⟩
  have marked := serves_set here e' j
  refine (h.serves j).trans ?_
  show s.serves j = true ↔ { s with entries := s.entries.set i e' }.serves j = true
  rw [marked]
  by_cases same : j = i
  · rw [if_pos same, same, was, still]
  · rw [if_neg same]

/-- A route that does not run starts to run, in a task of its own. -/
theorem begin (h : Tended s) (here : s.entries[i]? = some e) (idle : e.status.isRunning = false)
    (runs : e'.status.isRunning = true) (outcome : Option (Except String Unit)) :
    Tended { s with entries := s.entries.set i e', tasks := s.tasks ++ [⟨i, outcome⟩] } := by
  have was : s.serves i = false := (serves_eq here).trans idle
  have absent : i ∉ s.tasks.map (·.route) := fun h' => by
    rw [h.serves, was] at h'
    cases h'
  refine ⟨?_, fun j => ?_⟩
  · rw [List.map_append]
    exact List.nodup_append_comm.mpr (List.nodup_cons.mpr ⟨absent, h.distinct⟩)
  · have marked := serves_set here e' j
    show j ∈ (s.tasks ++ [_]).map _ ↔ { s with entries := s.entries.set i e' }.serves j = true
    rw [marked, List.map_append, List.mem_append, h.serves]
    by_cases same : j = i
    · rw [if_pos same, same, was, runs]
      simp
    · rw [if_neg same]
      simp [same]

/-- The relay of a task ends; the supervisor does not know yet. -/
theorem ended (h : Tended s) {k : Nat} {was : Option (Except String Unit)}
    (going : s.tasks[k]? = some ⟨i, was⟩) (outcome : Option (Except String Unit)) :
    Tended { s with tasks := s.tasks.set k ⟨i, outcome⟩ } := by
  have routes : (s.tasks.set k ⟨i, outcome⟩).map (·.route) = s.tasks.map (·.route) := by
    refine List.ext_getElem? fun j => ?_
    rw [List.getElem?_map, List.getElem?_map, List.getElem?_set]
    by_cases same : k = j
    · subst same
      rw [if_pos rfl, if_pos (List.getElem?_eq_some_iff.mp going).1, going]
      rfl
    · rw [if_neg same]
  refine ⟨?_, fun j => ?_⟩
  · show ((s.tasks.set k _).map (·.route)).Nodup
    rw [routes]
    exact h.distinct
  · show j ∈ (s.tasks.set k _).map (·.route) ↔ s.serves j = true
    rw [routes]
    exact h.serves j

/-- The supervisor joins a task and marks its route. -/
theorem join (h : Tended s) {k : Nat} {outcome : Except String Unit}
    (ended : s.tasks[k]? = some ⟨i, some outcome⟩) :
    Tended ({ s with tasks := s.tasks.eraseIdx k }.settle i outcome) := by
  obtain ⟨lt, eq⟩ := List.getElem?_eq_some_iff.mp ended
  have routes : (s.tasks.eraseIdx k).map (·.route) = (s.tasks.map (·.route)).erase i := by
    have removed := h.distinct.erase_getElem k (by rwa [List.length_map])
    rw [List.getElem_map, eq, List.eraseIdx_map] at removed
    exact removed.symm
  obtain ⟨e, here, -⟩ := h.running_of_task ended
  have marked := serves_set here { e with status := .ofOutcome outcome }
  have idle : (Status.ofOutcome outcome).isRunning = false := by cases outcome <;> rfl
  rw [settle_eq (s := { s with tasks := s.tasks.eraseIdx k }) here]
  refine ⟨?_, fun j => ?_⟩
  · show ((s.tasks.eraseIdx k).map (·.route)).Nodup
    rw [routes]
    exact h.distinct.erase i
  · show j ∈ (s.tasks.eraseIdx k).map (·.route) ↔ { s with entries := _ }.serves j = true
    rw [routes, h.distinct.mem_erase_iff, h.serves, marked]
    by_cases same : j = i
    · rw [if_pos same, idle]
      simp [same]
    · rw [if_neg same]
      simp [same]

theorem serves_shutdown (s : Supervisor) (i : Nat) : s.shutdown.serves i = false := by
  simp only [Supervisor.serves, Supervisor.shutdown, List.getElem?_map]
  cases s.entries[i]? with
  | none => rfl
  | some e =>
    simp only [Option.map_some, Option.any_some]
    split
    · rfl
    · next idle => exact Bool.not_eq_true _ ▸ idle

theorem shutdown (s : Supervisor) : Tended s.shutdown := by
  refine ⟨List.nodup_nil, fun i => ?_⟩
  rw [serves_shutdown]
  exact ⟨fun h => absurd h List.not_mem_nil, fun h => by cases h⟩

theorem act (h : Tended s) {a : Action} (act : s.act a = some s') : Tended s' := by
  obtain ⟨k, i, outcome, -, going, rfl⟩ | ⟨k, i, outcome, -, ended, rfl⟩ | ⟨-, rfl⟩ := act_cases act
  · exact h.ended going _
  · exact h.join ended
  · exact shutdown s

end Tended

/-! ## After the start -/

/-- The first `k` routes are started. -/
structure Started (c : Config) (sockets : Nat → Except IoError Endpoint) (k : Nat)
    (s : Supervisor) : Prop where
  config : s.config = c
  size : s.entries.length = c.routes.length
  started : ∀ i < k, ∀ r, c.routes[i]? = some r →
    ∃ e, s.entries[i]? = some e ∧ StartedAs c r (sockets i) e
  fresh : ∀ i, k ≤ i → s.entries[i]? = (c.routes[i]?).map fun route => { route }
  tended : Tended s

namespace Started

variable {c : Config} {cores : UInt64} {now : Instant} {sockets : Nat → Except IoError Endpoint}

theorem ofConfig (c : Config) (sockets : Nat → Except IoError Endpoint) :
    Started c sockets 0 (ofConfig c) where
  config := rfl
  size := List.length_map _
  started := fun i h => absurd h (Nat.not_lt_zero i)
  fresh := fun i _ => List.getElem?_map
  tended := by
    refine ⟨List.nodup_nil, fun i => ⟨fun h => absurd h List.not_mem_nil, fun h => ?_⟩⟩
    simp only [Supervisor.serves, Supervisor.ofConfig, List.getElem?_map] at h
    cases listed : c.routes[i]? <;> rw [listed] at h <;> cases h

theorem startRoute {k : Nat} (h : Started c sockets k s) (inside : k < c.routes.length) :
    Started c sockets (k + 1) (s.startRoute cores now k (sockets k)) := by
  obtain ⟨r, listed⟩ : ∃ r, c.routes[k]? = some r := ⟨_, List.getElem?_eq_getElem inside⟩
  have here : s.entries[k]? = some { route := r } := by rw [h.fresh k (Nat.le_refl k), listed]; rfl
  -- whatever the entry becomes, the others are as they were
  have settled : ∀ e t, StartedAs s.config r (sockets k) e → t.config = s.config →
      t.entries = s.entries.set k e → Tended t → Started c sockets (k + 1) t := by
    intro e t as config entries tended
    refine ⟨config.trans h.config, ?_, ?_, ?_, tended⟩
    · rw [entries, List.length_set, h.size]
    · intro i below r' listed'
      rw [entries]
      by_cases same : k = i
      · subst same
        cases listed.symm.trans listed'
        exact ⟨e, List.getElem?_set_self (h.size ▸ inside), h.config ▸ as⟩
      · rw [List.getElem?_set_ne same]
        exact h.started i (by omega) r' listed'
    · intro i above
      rw [entries, List.getElem?_set_ne (by omega)]
      exact h.fresh i (by omega)
  obtain ⟨message, as, eq⟩ | ⟨relay, as, eq⟩ := startRoute_cases cores now (sockets k) here rfl
  · rw [eq]
    exact settled _ _ as rfl rfl (h.tended.mark here rfl rfl _)
  · rw [eq]
    exact settled _ _ as rfl rfl (h.tended.begin here rfl rfl _)

theorem startAll (c : Config) (cores : UInt64) (now : Instant)
    (sockets : Nat → Except IoError Endpoint) :
    Started c sockets c.routes.length ((Supervisor.ofConfig c).startAll cores now sockets) := by
  have size : (Supervisor.ofConfig c).entries.length = c.routes.length := List.length_map _
  rw [← size]
  refine startAll_induction (Started c sockets) (ofConfig c sockets) fun k t inside h => ?_
  exact h.startRoute (size ▸ inside)

/-- As many routes serve as could be bound. -/
theorem running_eq (h : Started c sockets c.routes.length s) :
    s.running = c.routes.zipIdx.countP fun (r, i) => c.binds r (sockets i) := by
  have statuses : s.entries.map (·.status.isRunning) =
      c.routes.zipIdx.map fun (r, i) => c.binds r (sockets i) := by
    refine List.ext_getElem? fun i => ?_
    rw [List.getElem?_map, List.getElem?_map, List.getElem?_zipIdx, Nat.zero_add]
    cases listed : c.routes[i]? with
    | none => rw [h.fresh i (List.getElem?_eq_none_iff.mp listed), listed]; rfl
    | some r =>
      have inside : i < c.routes.length := (List.getElem?_eq_some_iff.mp listed).1
      obtain ⟨e, here, as⟩ := h.started i inside r listed
      rw [here]
      exact congrArg some as.isRunning
  have counted := congrArg (List.countP id) statuses
  rw [List.countP_map, List.countP_map] at counted
  exact counted

theorem routes (h : Started c sockets c.routes.length s) :
    s.entries.map (·.route) = c.routes := by
  refine List.ext_getElem? fun i => ?_
  rw [List.getElem?_map]
  cases listed : c.routes[i]? with
  | none => rw [h.fresh i (List.getElem?_eq_none_iff.mp listed), listed]; rfl
  | some r =>
    obtain ⟨e, here, as⟩ := h.started i (List.getElem?_eq_some_iff.mp listed).1 r listed
    rw [here]
    exact congrArg some as.route

end Started

/-! ## Later -/

/-- What may become of an entry: it keeps its route and its relay, and once it does not run
nothing of it changes. -/
structure Continues (e e' : Entry) : Prop where
  route : e'.route = e.route
  relay : e'.relay = e.relay
  settled : e.status ≠ .running → e' = e

/-- The entries continue those of an earlier state. -/
structure Follows (s s' : Supervisor) : Prop where
  config : s'.config = s.config
  size : s'.entries.length = s.entries.length
  entries : ∀ (i : Nat) (e : Entry), s.entries[i]? = some e →
    ∃ e', s'.entries[i]? = some e' ∧ Continues e e'

namespace Continues

theorem refl (e : Entry) : Continues e e := ⟨rfl, rfl, fun _ => rfl⟩

theorem trans {e₁ e₂ e₃ : Entry} (h : Continues e₁ e₂) (h' : Continues e₂ e₃) :
    Continues e₁ e₃ where
  route := h'.route.trans h.route
  relay := h'.relay.trans h.relay
  settled := fun still => by
    have same := h.settled still
    subst same
    exact h'.settled still

end Continues

namespace Follows

theorem refl (s : Supervisor) : Follows s s := ⟨rfl, rfl, fun _ e here => ⟨e, here, .refl e⟩⟩

theorem trans {s₁ s₂ s₃ : Supervisor} (h : Follows s₁ s₂) (h' : Follows s₂ s₃) :
    Follows s₁ s₃ := by
  refine ⟨h'.config.trans h.config, h'.size.trans h.size, fun i e here => ?_⟩
  obtain ⟨e₂, here₂, to₂⟩ := h.entries i e here
  obtain ⟨e₃, here₃, to₃⟩ := h'.entries i e₂ here₂
  exact ⟨e₃, here₃, to₂.trans to₃⟩

/-- Only a route that runs is marked, and nothing else of it changes. -/
theorem mark (here : s.entries[i]? = some e) (runs : e.status.isRunning = true) (status : Status)
    (tasks : List Task) (log : List (Nat × Event)) :
    Follows s { s with entries := s.entries.set i { e with status }, tasks, log } := by
  refine ⟨rfl, List.length_set, fun j e' here' => ?_⟩
  by_cases same : i = j
  · subst same
    cases here.symm.trans here'
    refine ⟨_, List.getElem?_set_self (List.getElem?_eq_some_iff.mp here).1, rfl, rfl, ?_⟩
    exact fun still => absurd (Status.isRunning_iff.mp runs) still
  · exact ⟨e', (List.getElem?_set_ne same).trans here', .refl e'⟩

theorem shutdown (s : Supervisor) : Follows s s.shutdown := by
  refine ⟨rfl, List.length_map _, fun i e here => ?_⟩
  refine ⟨_, by rw [Supervisor.shutdown, List.getElem?_map, here]; rfl, ?_⟩
  cases status : e.status <;> simp only [status, Status.isRunning]
  case running => exact ⟨rfl, rfl, fun still => absurd status still⟩
  all_goals exact .refl e

theorem routes (h : Follows s s') : s'.entries.map (·.route) = s.entries.map (·.route) := by
  refine List.ext_getElem (by simp [h.size]) fun i _ inside => ?_
  rw [List.length_map] at inside
  obtain ⟨e', here, into⟩ := h.entries i _ (List.getElem?_eq_getElem inside)
  obtain ⟨_, rfl⟩ := List.getElem?_eq_some_iff.mp here
  rw [List.getElem_map, List.getElem_map]
  exact into.route

/-- A route that runs has run all the time. -/
theorem serves (h : Follows s s') (runs : s'.serves i = true) : s.serves i = true := by
  have inside : i < s.entries.length := h.size ▸ lt_of_serves runs
  have here := List.getElem?_eq_getElem inside
  obtain ⟨e', here', into⟩ := h.entries i _ here
  rw [serves_eq here'] at runs
  rw [serves_eq here]
  by_cases was : s.entries[i].status = .running
  · exact congrArg Status.isRunning was
  · exact into.settled was ▸ runs

theorem act (tended : Tended s) {a : Action} (act : s.act a = some s') : Follows s s' := by
  obtain ⟨k, i, outcome, -, going, rfl⟩ | ⟨k, i, outcome, -, ended, rfl⟩ | ⟨-, rfl⟩ := act_cases act
  · exact ⟨rfl, rfl, fun _ e here => ⟨e, here, .refl e⟩⟩
  · obtain ⟨e, here, runs⟩ := tended.running_of_task ended
    rw [settle_eq (s := { s with tasks := s.tasks.eraseIdx k }) here]
    exact mark here runs _ _ _
  · exact shutdown s

end Follows

namespace Reachable

variable {start : Supervisor}

theorem tended (h : Tended start) (reached : Reachable start s) : Tended s := by
  induction reached with
  | start => exact h
  | step _ act ih => exact ih.act act

theorem follows (h : Tended start) (reached : Reachable start s) : Follows start s := by
  induction reached with
  | start => exact .refl start
  | step before act ih => exact ih.trans (.act (before.tended h) act)

end Reachable

theorem running_of_isIdle (h : Tended s) (idle : s.isIdle = true) : s.running = 0 := by
  refine running_eq_zero fun i => ?_
  have empty : s.tasks = [] := List.isEmpty_iff.mp idle
  by_contra runs
  have left := (h.serves i).mpr (by simpa using runs)
  rw [empty] at left
  cases left

theorem settle_withTasks (s : Supervisor) (tasks : List Task) (i : Nat)
    (outcome : Except String Unit) :
    { s with tasks }.settle i outcome = { s.settle i outcome with tasks } := by
  unfold settle
  cases s.entries[i]? with
  | none => rfl
  | some e => cases outcome <;> rfl

theorem Reachable.joins {start : Supervisor} (kept rest : List Task)
    (reached : Reachable start { s with tasks := kept ++ rest }) :
    Reachable start
      ((rest.filterMap fun t => t.outcome.map fun outcome => (t.route, outcome)).foldl
        (fun s (i, outcome) => s.settle i outcome)
        { s with tasks := kept ++ rest.filter (·.outcome.isNone) }) := by
  induction rest generalizing s kept with
  | nil => exact reached
  | cons t rest ih =>
    obtain ⟨i, _ | outcome⟩ := t
    · have := ih (kept ++ [⟨i, none⟩]) (by rwa [List.append_assoc])
      rwa [List.append_assoc] at this
    · have joined :
          act { s with tasks := kept ++ { route := i, outcome := some outcome } :: rest }
            (.join kept.length) =
          some { s.settle i outcome with tasks := kept ++ rest } := by
        simp only [act, List.getElem?_append_right (Nat.le_refl _), Nat.sub_self,
          List.getElem?_cons_zero, List.eraseIdx_append_of_length_le (Nat.le_refl _),
          List.eraseIdx_cons_zero]
        exact congrArg some (settle_withTasks s _ i outcome)
      have := ih kept (reached.step joined)
      rwa [← settle_withTasks] at this

/-- Joining what has ended is a run of joins. -/
theorem reachable_joinEnded (s : Supervisor) : Reachable s s.joinEnded :=
  Reachable.joins [] s.tasks .start

/-- How the routes of a supervisor stand that has started them. -/
structure Supervised (c : Config) (s : Supervisor) : Prop where
  config : s.config = c
  routes : s.entries.map (·.route) = c.routes
  /-- The tasks that are left are those of the routes that run, one each. -/
  tasks : (s.tasks.map (·.route)).Perm s.serving
  idle : s.isIdle = true → s.running = 0
  shutdown : ∀ s', Reachable s.shutdown s' → s'.running = 0
  later : ∀ s', Reachable s s' → Follows s s'

/-- Each route starts on its own settings and its own socket, and from then on its entry and its
task agree. -/
theorem Reachable.supervised {c : Config} {cores : UInt64} {now : Instant}
    {sockets : Nat → Except IoError Endpoint}
    (reached : Reachable ((ofConfig c).startAll cores now sockets) s) :
    (∀ i r, c.routes[i]? = some r →
      ∃ e, ((ofConfig c).startAll cores now sockets).entries[i]? = some e ∧
        StartedAs c r (sockets i) e) ∧
    ((ofConfig c).startAll cores now sockets).running =
      c.routes.zipIdx.countP (fun (r, i) => c.binds r (sockets i)) ∧
    Supervised c s := by
  have started := Started.startAll c cores now sockets
  have follows := reached.follows started.tended
  have tended := reached.tended started.tended
  refine ⟨fun i r listed => ?_, started.running_eq, ?_⟩
  · exact started.started i (List.getElem?_eq_some_iff.mp listed).1 r listed
  · refine ⟨follows.config.trans started.config, ?_, tended.perm, running_of_isIdle tended, ?_, ?_⟩
    · rw [follows.routes, started.routes]
    · intro s' later
      refine running_eq_zero fun i => ?_
      by_contra runs
      have before := (later.follows (.shutdown s)).serves (Bool.not_eq_false _ ▸ runs)
      rw [Tended.serves_shutdown] at before
      cases before
    · exact fun s' later => later.follows tended

def threeRoutes : Config where
  routes := [
    { protocol := .tcp, localPort := 8080, remoteHost := "example.net", remotePort := 80 },
    { protocol := .tcp, localPort := 8080, remoteHost := "example.org", remotePort := 80 },
    { protocol := .udp, localPort := 5353, remoteHost := "example.net", remotePort := 53 }]

def secondTaken : Nat → Except IoError Endpoint
  | 0 => .ok (.v4 ⟨0, 0, 0, 0⟩ 8080)
  | 1 => .error (.os 98)
  | _ => .ok (.v4 ⟨0, 0, 0, 0⟩ 5353)

/-- Two relays end, and the supervisor joins the later one. -/
def joinedActions : List Action :=
  [.ended 0 (.ok ()), .ended 1 (.error "gone"), .join 1]

theorem supervised_mixed : ∃ s,
    Reachable ((ofConfig threeRoutes).startAll 1 .zero secondTaken) s ∧
    s.entries.map (·.status) = [.running,
      .failed "failed to bind to 0.0.0.0:8080: Address already in use (os error 98)",
      .failed "gone"] ∧
    s.tasks.map (·.route) = [0] ∧
    ((ofConfig threeRoutes).startAll 1 .zero secondTaken).running = 2 ∧
    Supervised threeRoutes s := by
  have run : (((ofConfig threeRoutes).startAll 1 .zero secondTaken).run? joinedActions).any
      (fun s => s.entries.map (·.status) == [.running,
        .failed "failed to bind to 0.0.0.0:8080: Address already in use (os error 98)",
        .failed "gone"] && s.tasks.map (·.route) == [0]) = true := by decide +kernel
  obtain ⟨s, run, shape⟩ := (Option.any_eq_true _ _).mp run
  simp only [Bool.and_eq_true, beq_iff_eq] at shape
  have reached := Reachable.start.run? run
  obtain ⟨-, running, supervised⟩ := reached.supervised
  exact ⟨s, reached, shape.1, shape.2, running.trans (by decide +kernel), supervised⟩

end Supervisor

end SocketRelay
