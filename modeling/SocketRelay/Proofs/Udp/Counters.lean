import SocketRelay.Proofs.Udp.Moves

/-!
# Counters and the log

Seven counters of a relay go with events. A change that logs an event counts it,
and counts nothing else (`Engine.Move.tallied`), so the counters are the numbers
of events in the log (`Relay.Reachable.tallied`).

A task counts first and writes its event a little later, when others may have
counted and written theirs. `Relay.Recorded` leaves every event pending for any
time. What is counted is then written or pending, and when nothing is pending
the counters agree with what is written (`Relay.Recorded.countersAgree`).
-/

namespace SocketRelay.Udp

open Net

/-- A counter that goes with events. -/
inductive Counter where
  | dropped
  | created
  | evicted
  | stalls
  | overflows
  | readErrors
  | dialFailures
  deriving DecidableEq, Repr

namespace Counter

def all : List Counter :=
  [dropped, created, evicted, stalls, overflows, readErrors, dialFailures]

theorem mem_all (c : Counter) : c ∈ all := by cases c <;> decide

def value : Counter → Stats → UInt64
  | dropped, s => s.dropped
  | created, s => s.created
  | evicted, s => s.evicted
  | stalls, s => s.stalls
  | overflows, s => s.overflows
  | readErrors, s => s.readErrors
  | dialFailures, s => s.dialFailures

def counts : Counter → Event → Bool
  | dropped, .datagramDropped .. => true
  | created, .sessionCreated .. => true
  | evicted, .sessionEvicted .. => true
  | stalls, .ingestStalled .. => true
  | overflows, .eventQueueFull .. => true
  | readErrors, .datagramReadFailed .. => true
  | dialFailures, .targetResolveFailed .. => true
  | dialFailures, .sessionDialFailed .. => true
  | _, _ => false

def tally (c : Counter) (events : List Event) : Nat := events.countP c.counts

@[simp] theorem tally_nil (c : Counter) : c.tally [] = 0 := rfl

theorem tally_append (c : Counter) (events more : List Event) :
    c.tally (events ++ more) = c.tally events + c.tally more := List.countP_append

theorem tally_singleton (c : Counter) (event : Event) :
    c.tally [event] = if c.counts event then 1 else 0 := List.countP_singleton

/-- An event that is not counted does not count, if there is one. -/
theorem tally_map_toList {α : Type} (c : Counter) {f : α → Event}
    (other : ∀ a, c.counts (f a) = false) (a : Option α) : c.tally (a.map f).toList = 0 := by
  cases a with
  | none => rfl
  | some a => exact (c.tally_singleton (f a)).trans (if_neg (Bool.eq_false_iff.mp (other a)))

theorem tally_perm (c : Counter) {events other : List Event} (h : events.Perm other) :
    c.tally events = c.tally other := h.countP_eq _

/-- The event of a session that could not be opened is counted as that, whatever the error. -/
theorem counts_openFailure (c : Counter) (e : Engine) (client : Endpoint) (error : Error) :
    c.counts (e.openFailure client error) = decide (c = dialFailures) := by
  unfold Engine.openFailure
  split <;> cases c <;> rfl

end Counter

namespace Engine

variable {e e' e'' : Engine} {now : Instant}

/-- What was logged from `e` to `e'` was counted, and nothing else. -/
def Tallied (e e' : Engine) : Prop :=
  ∃ more, e'.log = e.log ++ more ∧
    ∀ c : Counter, c.value e'.stats = c.value e.stats + .ofNat (c.tally more)

namespace Tallied

/-- Nothing was logged, and nothing counted. -/
theorem of_same (log : e'.log = e.log) (stats : ∀ c : Counter, c.value e'.stats = c.value e.stats) :
    Tallied e e' :=
  ⟨[], by rw [log, List.append_nil], fun c => by rw [stats, c.tally_nil]; exact
    (UInt64.add_zero _).symm⟩

/-- One event was logged, and counted where it belongs. -/
theorem of_event (event : Event) (log : e'.log = e.log ++ [event])
    (stats : ∀ c : Counter, c.value e'.stats =
      if c.counts event then c.value e.stats + 1 else c.value e.stats) : Tallied e e' := by
  refine ⟨[event], log, fun c => ?_⟩
  rw [stats, c.tally_singleton]
  split
  · rfl
  · exact (UInt64.add_zero _).symm

theorem refl (e : Engine) : Tallied e e := of_same rfl fun _ => rfl

theorem trans (h : Tallied e e') (h' : Tallied e' e'') : Tallied e e'' := by
  obtain ⟨more, log, stats⟩ := h
  obtain ⟨more', log', stats'⟩ := h'
  refine ⟨more ++ more', by rw [log', log, List.append_assoc], fun c => ?_⟩
  rw [stats', stats, c.tally_append, UInt64.ofNat_add, UInt64.add_assoc]

theorem refuse (e : Engine) (now : Instant) (d : Datagram) (error : Error) :
    Tallied e (e.refuse now d error) := by
  refine of_event (e.openFailure d.source error) rfl fun c => ?_
  rw [c.counts_openFailure]
  cases c <;> rfl

theorem enqueue (e : Engine) (now : Instant) (s : Session) (key : String) (d : Datagram) :
    Tallied e (e.enqueue now s key d) := by
  cases room : s.forwarder.offer d.payload with
  | some f =>
    rw [enqueue_of_offer_some room]
    exact of_same rfl fun _ => rfl
  | none =>
    rw [enqueue_of_offer_none room]
    exact of_event (.datagramDropped d.source) rfl fun c => by cases c <;> rfl

theorem evict {key : String} {s : Session} (live : e.session? key = some s)
    (reason : EvictionReason) : Tallied e (e.evict key reason) := by
  rw [evict_eq live]
  exact of_event (.sessionEvicted s.client reason) rfl fun c => by cases c <;> rfl

/-- A task that gives up logs the error of its socket, which no counter counts, and its report if
that is lost. -/
theorem fail (e : Engine) (now : Instant) (s : Session) (reason : FailureReason)
    (cause : Option (SessionOp × IoError)) : Tallied e (e.fail now s reason cause) := by
  rw [fail_eq]
  refine ⟨_, List.append_assoc .., fun c => ?_⟩
  rw [c.tally_append, c.tally_map_toList (fun _ => by cases c <;> rfl), Nat.zero_add]
  split
  · rw [c.tally_singleton]
    cases c <;> first | rfl | exact (UInt64.add_zero _).symm
  · rw [c.tally_nil]
    cases c <;> exact (UInt64.add_zero _).symm

theorem apply (e : Engine) (now : Instant) (s : Session) (effect : Effect) :
    Tallied e (e.apply now s effect) := by
  cases effect with
  | none => exact refl e
  | forwarded | replied => exact of_same rfl fun c => by cases c <;> rfl
  | failed reason cause => exact fail e now s reason cause

end Tallied

theorem Move.tallied (m : Move now e e') : Tallied e e' := by
  cases m with
  | received => exact .of_same rfl fun c => by cases c <;> rfl
  | readFailed listen error =>
    exact .of_event (.datagramReadFailed listen error) rfl fun c => by cases c <;> rfl
  | stalled listen => exact .of_event (.ingestStalled listen) rfl fun c => by cases c <;> rfl
  | resolved | stopped | reportTaken => exact .of_same rfl fun _ => rfl
  | refused error absent => exact .refuse e now _ error
  | @created client remote =>
    exact .of_event (.sessionCreated client (e.lastId + 1) remote) rfl fun c => by cases c <;> rfl
  | enqueued live => exact .enqueue e now _ _ _
  | swept live idle => exact .evict live _
  | reported live same => exact .evict live _
  | stepped live step => exact .apply (e.update _ _) now _ _
  | drained gone step => exact .apply { e with removed := _ } now _ _

theorem Moves.tallied (moves : Moves now e e') : Tallied e e' :=
  moves.keeps (P := Tallied e) (fun m h => h.trans m.tallied) (.refl e)

end Engine

namespace Relay

open Engine

variable {l : Listener} {cores : UInt64} {memory : Nat} {began t : Instant} {start r : Relay}
  {pending written : List Event}

theorem Reachable.tallied (started : l.start? cores memory began = some start)
    (reached : Reachable start t r) (c : Counter) :
    c.value r.engine.stats = .ofNat (c.tally r.engine.log) := by
  induction reached with
  | start =>
    rw [Listener.engine_of_start? started]
    cases c <;> rfl
  | step _ _ act ih =>
    obtain ⟨more, log, stats⟩ := (act_moves act).tallied
    rw [stats, ih, log, c.tally_append, UInt64.ofNat_add]

/-- The states of a relay whose tasks count at once and write their events later, each whenever it
gets to it: the relay, the events that are counted but not written, and those that are written. -/
inductive Recorded (start : Relay) : Instant → Relay → List Event → List Event → Prop where
  | start (now : Instant) : Recorded start now start start.engine.log []
  | act {t now : Instant} {r r' : Relay} {a : Action} {pending written : List Event}
      (before : Recorded start t r pending written) (later : t ≤ now) (h : r.act now a = some r') :
      Recorded start now r' (pending ++ r'.engine.log.drop r.engine.log.length) written
  | write {t : Instant} {r : Relay} {event : Event} {left right written : List Event}
      (before : Recorded start t r (left ++ event :: right) written) :
      Recorded start t r (left ++ right) (written ++ [event])

namespace Recorded

theorem reachable (reached : Recorded start t r pending written) : Reachable start t r := by
  induction reached with
  | start now => exact .start now
  | act _ later h ih => exact ih.step later h
  | write _ ih => exact ih

/-- Every event is pending or written, and no event is both. -/
theorem perm (reached : Recorded start t r pending written) :
    (pending ++ written).Perm r.engine.log := by
  induction reached with
  | start => rw [List.append_nil]
  | @act t now r r' a pending written _ _ h ih =>
    obtain ⟨more, log, -⟩ := (act_moves h).tallied
    rw [log, List.drop_left, List.append_assoc]
    exact (List.perm_append_comm.append_left _).trans
      ((List.append_assoc ..).symm ▸ ih.append_right _)
  | @write t r event left right written _ ih =>
    refine .trans ?_ ih
    rw [List.append_assoc, List.append_assoc, List.cons_append, ← List.append_assoc right]
    exact (List.perm_append_singleton event _).append_left left

/-- The tasks can write all that is pending. -/
theorem flush (reached : Recorded start t r pending written) :
    Recorded start t r [] (written ++ pending) := by
  induction pending generalizing written with
  | nil => rwa [List.append_nil]
  | cons event pending ih =>
    have next : Recorded start t r pending (written ++ [event]) := @write _ _ _ _ [] _ _ reached
    have rest := ih next
    rwa [List.append_assoc] at rest

end Recorded

theorem Reachable.recorded (reached : Reachable start t r) :
    ∃ written, Recorded start t r [] written := by
  induction reached with
  | start now => exact ⟨_, (Recorded.start now).flush⟩
  | step _ later h ih =>
    obtain ⟨written, before⟩ := ih
    exact ⟨_, (before.act later h).flush⟩

/-- How the counters go with the events that are written and those that are pending. -/
structure CountersAgree (stats : Stats) (pending written : List Event) : Prop where
  total : ∀ c : Counter, c.value stats = .ofNat (c.tally pending) + .ofNat (c.tally written)
  quiet : pending = [] → ∀ c : Counter, c.value stats = .ofNat (c.tally written)
  /-- As long as a counter has not wrapped, it is the number. -/
  number : pending = [] → ∀ c : Counter, c.tally written < UInt64.size →
    (c.value stats).toNat = c.tally written

theorem Recorded.countersAgree (started : l.start? cores memory began = some start)
    (reached : Recorded start t r pending written) :
    CountersAgree r.engine.stats pending written := by
  have total (c : Counter) :
      c.value r.engine.stats = .ofNat (c.tally pending) + .ofNat (c.tally written) := by
    rw [reached.reachable.tallied started, ← c.tally_perm reached.perm, c.tally_append,
      UInt64.ofNat_add]
  have quiet (none : pending = []) (c : Counter) :
      c.value r.engine.stats = .ofNat (c.tally written) := by
    rw [total, none, c.tally_nil]
    exact UInt64.zero_add _
  refine ⟨total, quiet, fun none c few => ?_⟩
  rw [quiet none]
  exact UInt64.toNat_ofNat_of_lt few

def crampedListener : Listener :=
  ⟨.v4 ⟨127, 0, 0, 1⟩ 7000, "example.net:53",
    { outboundQueue := 1, ingestPerCore := 1, eventQueue := 1 }⟩

/-- Whatever a relay counts happens: the second datagram finds the channel full and then the queue
of its session, a dial fails, and of two reports one is lost and one removes its session. -/
def troubledActions : List (Instant × Action) :=
  let a : Endpoint := .v4 ⟨10, 0, 0, 1⟩ 4001
  let b : Endpoint := .v4 ⟨10, 0, 0, 2⟩ 4001
  let free : Opening := ⟨.ok [.v4 ⟨192, 0, 2, 1⟩ 53], .ok ()⟩
  let forwarder (client : Endpoint) (input : ForwarderInput) : Action :=
    .engine (.task (.live client.text) (.forwarder input))
  [(.ofMillis 1, .readFailed .connectionRefused),
   (.ofMillis 2, .receive ⟨a, [1]⟩), (.ofMillis 2, .receive ⟨a, [2]⟩),
   (.ofMillis 3, .take), (.ofMillis 3, .finish free), (.ofMillis 3, .handOver),
   (.ofMillis 3, .take), (.ofMillis 3, .finish free),
   (.ofMillis 4, .receive ⟨b, [3]⟩), (.ofMillis 4, .take),
   (.ofMillis 4, .finish ⟨free.lookup, .error .networkUnreachable⟩),
   (.ofMillis 5, .receive ⟨b, [4]⟩), (.ofMillis 5, .take), (.ofMillis 5, .finish free),
   (.ofMillis 6, forwarder a .take), (.ofMillis 6, forwarder a (.writeFailed .messageTooLong)),
   (.ofMillis 7, forwarder b .take), (.ofMillis 7, forwarder b (.writeFailed .messageTooLong)),
   (.ofMillis 8, .engine .report)]

theorem countersAgree_troubled : ∃ start t r written,
    crampedListener.start? 1 65536 .zero = some start ∧
    Recorded start t r [] written ∧ CountersAgree r.engine.stats [] written ∧
    ∀ c : Counter, 0 < c.value r.engine.stats := by
  obtain ⟨start, t, r, started, reached, shape⟩ :=
    exists_reachable crampedListener 1 65536 troubledActions
      (fun _ r => Counter.all.all fun c => 0 < c.value r.engine.stats) (by decide +kernel)
  obtain ⟨written, recorded⟩ := reached.recorded
  refine ⟨start, t, r, written, started, recorded, recorded.countersAgree started, fun c => ?_⟩
  exact of_decide_eq_true (List.all_eq_true.mp shape c c.mem_all)

end Relay

end SocketRelay.Udp
