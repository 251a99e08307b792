import SocketRelay.Proofs.Tcp.Moves
import Mathlib.Data.List.Count
import Mathlib.Data.List.Perm.Basic
import Mathlib.Data.List.Range

/-!
# Where the accepted clients are

An accepted client waits in the accept loop, or a worker has taken it. From then on
it is with that worker or a pump, or its failed dial is in the log: the numbers of
all these are the numbers that were given (`Accounts.places`). Each counter counts the
clients that have come so far. Main statement: what was accepted is the sum of what the
counters have and what is in progress (`Reachable.balanced`).
-/

namespace SocketRelay.Tcp

open Net

namespace WorkerStage

def isDialing : WorkerStage → Bool
  | .dialing => true
  | _ => false

def isRefused : WorkerStage → Bool
  | .refused _ => true
  | _ => false

def isConnected : WorkerStage → Bool
  | .connected _ => true
  | _ => false

end WorkerStage

namespace PumpStage

def isActive : PumpStage → Bool
  | .inactive | .completed | .closed => false
  | _ => true

/-- Whether the connection is not counted as active any more, and not yet as completed. -/
def isLeaving : PumpStage → Bool
  | .inactive => true
  | _ => false

def isCompleted : PumpStage → Bool
  | .completed | .closed => true
  | _ => false

theorem of_isCompleted {s : PumpStage} (h : s.isCompleted = true) :
    s.isActive = false ∧ s.isLeaving = false := by
  cases s with
  | completed | closed => exact ⟨rfl, rfl⟩
  | relaying | ended | countedUp | countedDown | reportedUp | reportedDown | inactive => cases h

end PumpStage

/-- Of three tests that sort a list, each element passes one. -/
theorem length_sorted {α : Type} {f g h : α → Bool}
    (one : ∀ a, (f a).toNat + (g a).toNat + (h a).toNat = 1) (l : List α) :
    l.length = l.countP f + l.countP g + l.countP h := by
  induction l with
  | nil => rfl
  | cons a rest ih =>
    have sorted := one a
    have bit (b : Bool) : (if b then 1 else 0) = b.toNat := by cases b <;> rfl
    rw [List.length_cons, List.countP_cons, List.countP_cons, List.countP_cons, bit, bit, bit]
    omega

theorem length_workers (workers : List Worker) :
    workers.length = workers.countP (·.stage.isDialing) + workers.countP (·.stage.isRefused) +
      workers.countP (·.stage.isConnected) :=
  length_sorted (fun w => by cases w.stage <;> rfl) workers

theorem length_pumps (pumps : List Pump) :
    pumps.length = pumps.countP (·.stage.isActive) + pumps.countP (·.stage.isLeaving) +
      pumps.countP (·.stage.isCompleted) :=
  length_sorted (fun p => by cases p.stage <;> rfl) pumps

theorem countP_split {α : Type} (f : α → Bool) (left right : List α) (a : α) :
    (left ++ a :: right).countP f = (left ++ right).countP f + (f a).toNat := by
  rw [List.countP_append, List.countP_cons, List.countP_append, Nat.add_assoc]
  cases f a <;> rfl

def isRefusal : Event → Bool
  | .connectionDialFailed .. => true
  | _ => false

/-- The clients whose failed dial is in the log, each with that event. -/
def refusals (log : List Record) : List (Nat × Event) :=
  log.filterMap fun record =>
    if isRefusal record.event then record.client.map (·, record.event) else none

namespace Relay

variable {r r' : Relay}

theorem refusals_record (event : Event) :
    refusals (r.record none event).log = refusals r.log := by
  have nothing : refusals [⟨none, event⟩] = [] := by
    unfold refusals
    cases isRefusal event <;> simp
  unfold record
  rw [refusals, List.filterMap_append]
  exact (congrArg _ nothing).trans (List.append_nil _)

theorem refusals_tell (number : Nat) {events : List Event}
    (other : ∀ event ∈ events, isRefusal event = false) :
    refusals (r.tell number events).log = refusals r.log := by
  have nothing : refusals (events.map fun event => ⟨some number, event⟩) = [] := by
    rw [refusals, List.filterMap_eq_nil_iff]
    intro record mem
    obtain ⟨event, told, rfl⟩ := List.mem_map.mp mem
    simp only [other event told, Bool.false_eq_true, if_false]
  unfold tell
  rw [refusals, List.filterMap_append]
  exact (congrArg _ nothing).trans (List.append_nil _)

theorem refusals_refuse (r : Relay) (number : Nat) (peer : Endpoint) (error : String) :
    refusals (r.tell number [.connectionDialFailed peer r.target error]).log =
      refusals r.log ++ [(number, .connectionDialFailed peer r.target error)] := by
  simp [refusals, tell, isRefusal]

def taken (r : Relay) : List Nat :=
  r.workers.map (·.client.number) ++ r.pumps.map (·.client.number) ++ (refusals r.log).map (·.1)

def waiting (r : Relay) : List Nat := r.held.toList.map (·.number)

def dialing (r : Relay) : Nat := r.workers.countP (·.stage.isDialing)

def failures (r : Relay) : Nat := r.workers.countP (·.stage.isRefused) + (refusals r.log).length

def connections (r : Relay) : Nat :=
  r.workers.countP (·.stage.isConnected) + r.pumps.countP (·.stage.isActive)

def leaving (r : Relay) : Nat := r.pumps.countP (·.stage.isLeaving)

def completions (r : Relay) : Nat := r.pumps.countP (·.stage.isCompleted)

/-! ## Clients -/

/-- What becomes of the client that waits, and of those that were taken. -/
inductive Custody (r r' : Relay) : Prop where
  | accepted (peer : Endpoint) (free : r.held = none) (held : r'.held = some ⟨r.nextClient, peer⟩)
    (next : r'.nextClient = r.nextClient + 1) (taken : r'.taken.Perm r.taken)
  | handedOff (client : Client) (held : r.held = some client) (free : r'.held = none)
    (next : r'.nextClient = r.nextClient) (taken : r'.taken.Perm (client.number :: r.taken))
    (dialed : ⟨client, .dialing⟩ ∈ r'.workers)
  | kept (held : r'.held = r.held) (next : r'.nextClient = r.nextClient)
    (taken : r'.taken.Perm r.taken)

theorem Settles.refusals_eq {p : Pump} {stage : PumpStage} (h : Settles r p stage r') :
    refusals r'.log = refusals r.log := by
  cases h with
  | ended | countedUp | countedDown | inactive | completed => rfl
  | reportedUp | reportedDown =>
    refine refusals_tell _ fun event mem => ?_
    obtain ⟨error, rfl⟩ := Pump.mem_report mem
    rfl
  | closed =>
    refine refusals_tell _ fun event mem => ?_
    rw [List.mem_singleton.mp mem]
    rfl

theorem taken_split {left right : List Worker} {w : Worker}
    (split : r.workers = left ++ w :: right) :
    r.taken.Perm (w.client.number :: taken { r with workers := left ++ right }) := by
  simp only [taken, split, List.map_append, List.map_cons, List.append_assoc, List.cons_append]
  exact List.perm_middle

theorem Move.custody (m : Move r r') : Custody r r' := by
  cases m with
  | accepted peer free => exact .accepted peer free rfl rfl (.refl _)
  | acceptFailed =>
    refine .kept rfl rfl (.of_eq ?_)
    simp only [taken, refusals_record]
    rfl
  | handedOff held free =>
    refine .handedOff _ held rfl rfl ?_ (by simp)
    simp only [taken, List.map_append, List.append_assoc]
    exact List.perm_middle
  | dialFailed cause split | dialed ends split =>
    refine .kept rfl rfl (.of_eq ?_)
    simp only [taken, split, List.map_append, List.map_cons]
  | refused split =>
    refine .kept rfl rfl (.trans ?_ (taken_split split).symm)
    rw [taken, refusals_refuse, List.map_append, ← List.append_assoc]
    exact List.perm_append_singleton ..
  | opened split =>
    refine .kept rfl rfl (.trans ?_ (taken_split split).symm)
    rw [taken, refusals_tell _ (List.forall_mem_singleton.mpr rfl)]
    simp only [tell, taken, List.map_append, List.map_cons, List.append_assoc, List.cons_append]
    exact ((List.perm_middle.append_left _).append_left _).trans
      ((List.perm_middle.append_left _).trans List.perm_middle)
  | copied split step =>
    refine .kept rfl rfl (.of_eq ?_)
    simp only [taken, split, List.map_append, List.map_cons]
  | settled split settles =>
    have refusals := settles.refusals_eq
    rw [settles.eq] at refusals ⊢
    refine .kept rfl rfl (.of_eq ?_)
    simp only [taken, refusals, split, List.map_append, List.map_cons]

/-! ## Counters -/

/-- A counter goes the way of the number that it counts. -/
inductive Follows (count count' : UInt64) (n n' : Nat) : Prop where
  | same (count : count' = count) (number : n' = n)
  | more (count : count' = count + 1) (number : n' = n + 1)
  | less (count : count' = count - 1) (number : n = n' + 1)

theorem Follows.ofNat {count count' : UInt64} {n n' : Nat} (h : Follows count count' n n')
    (eq : count = .ofNat n) : count' = .ofNat n' := by
  cases h with
  | same count number => rw [count, number, eq]
  | more count number => rw [count, number, eq, UInt64.ofNat_add]; rfl
  | less count number =>
    rw [count, eq, number, UInt64.ofNat_add]
    exact UInt64.add_sub_cancel ..

theorem Move.failures (m : Move r r') :
    Follows r.stats.dialFailures r'.stats.dialFailures r.failures r'.failures := by
  cases m with
  | accepted | copied => exact .same rfl rfl
  | acceptFailed =>
    refine .same rfl ?_
    rw [Relay.failures, refusals_record]
    rfl
  | handedOff held free =>
    refine .same rfl ?_
    simp only [Relay.failures, countP_split, List.append_nil]
    rfl
  | dialFailed cause split =>
    refine .more rfl ?_
    simp only [Relay.failures, split, countP_split]
    show _ + 1 + _ = _ + 0 + _ + 1
    omega
  | dialed ends split =>
    refine .same rfl ?_
    simp only [Relay.failures, split, countP_split]
    rfl
  | refused split =>
    refine .same rfl ?_
    rw [Relay.failures, refusals_refuse, List.length_append]
    simp only [Relay.failures, tell, split, countP_split]
    show _ + (_ + 1) = _ + 1 + _
    omega
  | opened split =>
    refine .same rfl ?_
    rw [Relay.failures, refusals_tell _ (List.forall_mem_singleton.mpr rfl)]
    simp only [Relay.failures, tell, split, countP_split]
    rfl
  | settled split settles =>
    have refusals := settles.refusals_eq
    refine .same (by cases settles <;> rfl) ?_
    rw [settles.eq] at refusals ⊢
    simp only [Relay.failures, refusals]

theorem Move.connections (m : Move r r') :
    Follows r.stats.active r'.stats.active r.connections r'.connections := by
  cases m with
  | accepted | acceptFailed => exact .same rfl rfl
  | handedOff held free =>
    refine .same rfl ?_
    simp only [Relay.connections, countP_split, List.append_nil]
    rfl
  | dialFailed cause split =>
    refine .same rfl ?_
    simp only [Relay.connections, split, countP_split]
    rfl
  | dialed ends split =>
    refine .more rfl ?_
    simp only [Relay.connections, split, countP_split]
    show _ + 1 + _ = _ + 0 + _ + 1
    omega
  | refused split =>
    refine .same rfl ?_
    simp only [Relay.connections, tell, split, countP_split]
    rfl
  | opened split =>
    refine .same rfl ?_
    simp only [Relay.connections, tell, split, countP_split, List.append_nil]
    show _ + (_ + 1) = _ + 1 + _
    omega
  | copied split step =>
    refine .same rfl ?_
    simp only [Relay.connections, split, countP_split]
  | settled split settles =>
    cases settles with
    | inactive stage =>
      refine .less rfl ?_
      simp only [Relay.connections, split, stage, countP_split]
      show _ + (_ + 1) = _ + (_ + 0) + 1
      omega
    | ended stage | countedUp stage | countedDown stage | reportedUp stage | reportedDown stage
    | completed stage | closed stage =>
      refine .same rfl ?_
      simp only [Relay.connections, tell, split, stage, countP_split]
      rfl

theorem Move.completions (m : Move r r') :
    Follows r.stats.completed r'.stats.completed r.completions r'.completions := by
  cases m with
  | accepted | acceptFailed | handedOff | dialFailed | dialed | refused => exact .same rfl rfl
  | opened split =>
    refine .same rfl ?_
    simp only [Relay.completions, tell, countP_split, List.append_nil]
    rfl
  | copied split step =>
    refine .same rfl ?_
    simp only [Relay.completions, split, countP_split]
  | settled split settles =>
    cases settles with
    | completed stage =>
      refine .more rfl ?_
      simp only [Relay.completions, split, stage, countP_split]
      rfl
    | ended stage | countedUp stage | countedDown stage | reportedUp stage | reportedDown stage
    | inactive stage | closed stage =>
      refine .same rfl ?_
      simp only [Relay.completions, split, stage, countP_split]
      rfl

/-! ## The law -/

structure Accounts (workers : Nat) (r : Relay) : Prop where
  /-- Every client that was accepted is in one place. -/
  places : (r.waiting ++ r.taken).Perm (List.range r.nextClient)
  pool : r.workerCount = workers
  room : r.workers.length ≤ workers
  accepted : r.stats.accepted = .ofNat r.nextClient
  dialFailures : r.stats.dialFailures = .ofNat r.failures
  active : r.stats.active = .ofNat r.connections
  completed : r.stats.completed = .ofNat r.completions

theorem accounts_start (l : Listener) (cores : UInt64) :
    Accounts (l.settings.workerCount cores).toNat (l.start cores) := by
  refine ⟨?_, rfl, Nat.zero_le _, rfl, ?_, rfl, rfl⟩
  · exact .refl _
  · rfl

theorem Custody.places (h : Custody r r')
    (places : (r.waiting ++ r.taken).Perm (List.range r.nextClient)) :
    (r'.waiting ++ r'.taken).Perm (List.range r'.nextClient) := by
  unfold waiting at places ⊢
  cases h with
  | accepted peer free held next taken =>
    rw [free] at places
    rw [held, next, List.range_succ]
    exact ((taken.trans places).cons _).trans (List.perm_append_singleton ..).symm
  | handedOff client held free next taken _ =>
    rw [held] at places
    rw [free, next]
    exact taken.trans places
  | kept held next taken =>
    rw [held, next]
    exact (taken.append_left _).trans places

theorem Move.pool (m : Move r r') : r'.workerCount = r.workerCount ∧
    (r.workers.length ≤ r.workerCount → r'.workers.length ≤ r'.workerCount) := by
  cases m with
  | accepted | acceptFailed | copied => exact ⟨rfl, id⟩
  | handedOff held free =>
    refine ⟨rfl, fun _ => ?_⟩
    rw [List.length_append]
    exact free
  | dialFailed cause split | dialed ends split =>
    refine ⟨rfl, fun room => ?_⟩
    rw [split] at room
    simpa only [List.length_append, List.length_cons] using room
  | refused split | opened split =>
    refine ⟨rfl, fun room => ?_⟩
    rw [split] at room
    simp only [tell, List.length_append, List.length_cons] at room ⊢
    omega
  | settled split settles =>
    rw [settles.eq]
    exact ⟨rfl, id⟩

theorem Move.accepted_eq (m : Move r r') :
    Follows r.stats.accepted r'.stats.accepted r.nextClient r'.nextClient := by
  cases m with
  | accepted => exact .more rfl rfl
  | acceptFailed | handedOff | dialFailed | dialed | refused | opened | copied =>
    exact .same rfl rfl
  | settled split settles => cases settles <;> exact .same rfl rfl

theorem Accounts.move {workers : Nat} (h : Accounts workers r) (m : Move r r') :
    Accounts workers r' := by
  obtain ⟨pool, room⟩ := m.pool
  have size := h.pool
  refine ⟨m.custody.places h.places, pool.trans size, ?_, m.accepted_eq.ofNat h.accepted,
    m.failures.ofNat h.dialFailures, m.connections.ofNat h.active,
    m.completions.ofNat h.completed⟩
  rw [← size, ← pool]
  exact room (size ▸ h.room)

theorem Reachable.accounts {l : Listener} {cores : UInt64}
    (reached : Reachable (l.start cores) r) :
    Accounts (l.settings.workerCount cores).toNat r :=
  reached.keeps (fun _ m h => h.move m) (accounts_start l cores)

/-- The numbers of the places add up. -/
theorem Accounts.total {workers : Nat} (h : Accounts workers r) :
    r.nextClient = r.waiting.length + r.dialing + r.failures + r.connections + r.leaving +
      r.completions := by
  have places := h.places.length_eq
  have busy := length_workers r.workers
  have pumping := length_pumps r.pumps
  simp only [taken, List.length_append, List.length_map, List.length_range] at places
  unfold dialing failures connections leaving completions
  omega

/-- The accounts of a relay between any two of its steps. -/
structure Balanced (workers : Nat) (r : Relay) : Prop where
  /-- Every accepted client is in one place: it waits in the accept loop, or one worker has taken
  it, and it is with that worker or its pump or its failure is in the log. -/
  places : (r.waiting ++ r.taken).Perm (List.range r.nextClient)
  /-- The accept loop holds one client at most, and each worker dials for one at most. -/
  bounds : r.waiting.length ≤ 1 ∧ r.dialing ≤ workers
  /-- The law, between counters that wrap. -/
  words : r.stats.accepted = .ofNat r.waiting.length + .ofNat r.dialing + r.stats.dialFailures +
    r.stats.active + .ofNat r.leaving + r.stats.completed
  /-- The law in numbers that do not wrap, and the counters as their remainders. -/
  numbers : r.nextClient = r.waiting.length + r.dialing + r.failures + r.connections + r.leaving +
    r.completions
  counters : r.stats.accepted = .ofNat r.nextClient ∧ r.stats.dialFailures = .ofNat r.failures ∧
    r.stats.active = .ofNat r.connections ∧ r.stats.completed = .ofNat r.completions
  /-- As long as the counter of accepted clients has not wrapped, no counter has, and the law holds
  of them as numbers. -/
  exact : r.nextClient < UInt64.size →
    r.stats.accepted.toNat = r.waiting.length + r.dialing + r.stats.dialFailures.toNat +
      r.stats.active.toNat + r.leaving + r.stats.completed.toNat ∧
    r.stats.dialFailures.toNat + r.stats.active.toNat + r.stats.completed.toNat ≤
      r.stats.accepted.toNat ∧
    r.stats.active.toNat = r.connections
  /-- The counter of active connections goes with their number; it is lowered only when there is
  one. -/
  active : ∀ a r', r.act a = some r' →
    Follows r.stats.active r'.stats.active r.connections r'.connections
  /-- A client leaves the accept loop to a worker that dials for it and that no worker has taken
  before; what was taken once stays taken. -/
  custody : ∀ a r', r.act a = some r' →
    (r.held = none ∨ r'.held = r.held) ∧ r'.taken.Perm r.taken ∨
    ∃ client, r.held = some client ∧ r'.held = none ∧ client.number ∉ r.taken ∧
      r'.taken.Perm (client.number :: r.taken) ∧ ⟨client, .dialing⟩ ∈ r'.workers
  /-- When nothing is in progress, every client was refused or completed. -/
  idle : r.held = none → r.workers = [] → (∀ p ∈ r.pumps, p.stage.isCompleted = true) →
    r.stats.active = 0 ∧ r.stats.accepted = r.stats.dialFailures + r.stats.completed

theorem Custody.step {workers : Nat} (h : Custody r r') (accounts : Accounts workers r) :
    (r.held = none ∨ r'.held = r.held) ∧ r'.taken.Perm r.taken ∨
    ∃ client, r.held = some client ∧ r'.held = none ∧ client.number ∉ r.taken ∧
      r'.taken.Perm (client.number :: r.taken) ∧ ⟨client, .dialing⟩ ∈ r'.workers := by
  cases h with
  | accepted peer free _ _ taken => exact .inl ⟨.inl free, taken⟩
  | kept held _ taken => exact .inl ⟨.inr held, taken⟩
  | handedOff client held free _ taken dialed =>
    have apart := accounts.places.nodup_iff.mpr List.nodup_range
    unfold waiting at apart
    rw [held] at apart
    exact .inr ⟨client, held, free, (List.nodup_cons.mp apart).1, taken, dialed⟩

theorem Custody.nextClient_le (h : Custody r r') : r.nextClient ≤ r'.nextClient := by
  cases h <;> omega

theorem Accounts.exact {workers : Nat} (h : Accounts workers r) (few : r.nextClient < UInt64.size) :
    r.stats.accepted.toNat = r.nextClient ∧ r.stats.dialFailures.toNat = r.failures ∧
      r.stats.active.toNat = r.connections ∧ r.stats.completed.toNat = r.completions := by
  have total := h.total
  have fits (n : Nat) (le : n ≤ r.nextClient) : (UInt64.ofNat n).toNat = n :=
    UInt64.toNat_ofNat_of_lt (Nat.lt_of_le_of_lt le few)
  rw [h.accepted, h.dialFailures, h.active, h.completed]
  exact ⟨fits _ (Nat.le_refl _), fits _ (by omega), fits _ (by omega), fits _ (by omega)⟩

theorem Accounts.words {workers : Nat} (h : Accounts workers r) :
    r.stats.accepted = .ofNat r.waiting.length + .ofNat r.dialing + r.stats.dialFailures +
      r.stats.active + .ofNat r.leaving + r.stats.completed := by
  rw [h.accepted, h.dialFailures, h.active, h.completed, h.total]
  simp only [UInt64.ofNat_add]

theorem Accounts.idle {workers : Nat} (h : Accounts workers r) (held : r.held = none)
    (free : r.workers = []) (ended : ∀ p ∈ r.pumps, p.stage.isCompleted = true) :
    r.stats.active = 0 ∧ r.stats.accepted = r.stats.dialFailures + r.stats.completed := by
  have gone (f : PumpStage → Bool) (other : ∀ s, s.isCompleted = true → f s = false) :
      r.pumps.countP (f ·.stage) = 0 :=
    List.countP_eq_zero.mpr fun p mem => by rw [other _ (ended p mem)]; exact Bool.false_ne_true
  have active : r.connections = 0 := by
    unfold connections
    rw [free, gone _ fun _ completed => (PumpStage.of_isCompleted completed).1]
    rfl
  have leaving : r.leaving = 0 := gone _ fun _ completed => (PumpStage.of_isCompleted completed).2
  have zero : r.stats.active = 0 := by rw [h.active, active]; rfl
  refine ⟨zero, ?_⟩
  rw [h.words, zero, leaving, waiting, held, dialing, free]
  simp

theorem Reachable.balanced {l : Listener} {cores : UInt64}
    (reached : Reachable (l.start cores) r) :
    Balanced (l.settings.workerCount cores).toNat r := by
  have accounts := reached.accounts
  refine ⟨accounts.places, ⟨?_, ?_⟩, accounts.words, accounts.total,
    ⟨accounts.accepted, accounts.dialFailures, accounts.active, accounts.completed⟩,
    fun few => ?_, fun a r' act => (act_move act).connections,
    fun a r' act => (act_move act).custody.step accounts, accounts.idle⟩
  · unfold waiting
    cases r.held <;> simp
  · exact Nat.le_trans List.countP_le_length accounts.room
  · obtain ⟨accepted, failed, active, completed⟩ := accounts.exact few
    have total := accounts.total
    exact ⟨by omega, by omega, active⟩

def smallListener : Listener := ⟨.v4 ⟨127, 0, 0, 1⟩ 8080, "remote:80", {}⟩

/-- Of six clients one was refused, one completed and one leaves; one is connected, one is being
dialed for and one waits. -/
def mixedActions : List Action :=
  let peer : Endpoint := .v4 ⟨10, 0, 0, 1⟩ 4001
  let silent : Ends := ⟨⟨[], none⟩, {}, ⟨[], none⟩, {}⟩
  let serve (result : Except IoError Ends) : List Action :=
    [.accept peer, .handOff, .dialed 0 result, .announce 0]
  let copies (i : Nat) : List Action :=
    [.copy i .up .call, .copy i .down .call, .copy i .down .call, .copy i .up .call]
  serve (.error .connectionRefused) ++
    serve (.ok silent) ++ copies 0 ++ List.replicate 8 (.settle 0) ++
    serve (.ok silent) ++ copies 1 ++ List.replicate 6 (.settle 1) ++
    serve (.ok silent) ++ [.accept peer, .handOff, .accept peer]

theorem balanced_mixed : ∃ r, Reachable (smallListener.start 2) r ∧
    Balanced (smallListener.settings.workerCount 2).toNat r ∧ r.nextClient = 6 ∧ r.dialing = 1 ∧
    r.failures = 1 ∧ r.connections = 1 ∧ r.leaving = 1 ∧ r.completions = 1 := by
  obtain ⟨r, reached, shape⟩ := exists_reachable (smallListener.start 2) mixedActions
    (fun r => r.nextClient == 6 && r.dialing == 1 && r.failures == 1 && r.connections == 1 &&
      r.leaving == 1 && r.completions == 1) (by decide +kernel)
  simp only [Bool.and_eq_true, beq_iff_eq] at shape
  obtain ⟨⟨⟨⟨⟨clients, dialing⟩, failures⟩, connections⟩, leaving⟩, completions⟩ := shape
  exact ⟨r, reached, reached.balanced, clients, dialing, failures, connections, leaving,
    completions⟩

end Relay

end SocketRelay.Tcp
