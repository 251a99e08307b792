import SocketRelay.Proofs.Udp.Counters
import SocketRelay.Proofs.Udp.Serving
import Mathlib.Data.List.DropRight
import Mathlib.Data.List.SplitBy

/-!
# What the read loop hands on

Beside a run goes its `History`: the datagrams that arrived, each with what the
channel answered first, and the datagrams that went into the channel. The second
list is the first as far as it was read, in order, but for the datagram that the
read loop holds or that found the manager gone. The read loop's flag tells
whether the last arrival found the channel full, so a stall is counted for each
longest stretch of such arrivals (`runsOf_concat`), wherever reads fail between
them. `Relay.passesOn_of_run` is the whole.
-/

namespace SocketRelay

/-! ## Stretches of equal elements -/

section
variable {α : Type} [DecidableEq α]

/-- How many of the stretches of equal elements, each as long as can be, are stretches of `a`. -/
def runsOf (a : α) (l : List α) : Nat := (l.splitBy (· == ·)).countP (·.head? == some a)

theorem runsOf_append {l m : List α} (a : α)
    (apart : ∀ x ∈ l.getLast?, ∀ y ∈ m.head?, x ≠ y) :
    runsOf a (l ++ m) = runsOf a l + runsOf a m := by
  unfold runsOf
  rw [List.splitBy_append, List.countP_append]
  exact fun x hx y hy => beq_eq_false_iff_ne.mpr (apart x hx y hy)

theorem runsOf_replicate (a b : α) (n : Nat) :
    runsOf a (List.replicate (n + 1) b) = if b = a then 1 else 0 := by
  have chain : (List.replicate (n + 1) b).IsChain fun x y => (x == y) = true :=
    List.isChain_replicate_of_rel _ (beq_self_eq_true b)
  have one : (List.replicate (n + 1) b).splitBy (· == ·) = [List.replicate (n + 1) b] :=
    List.splitBy_of_isChain (List.cons_ne_nil _ _) chain
  unfold runsOf
  rw [one, List.countP_singleton, List.replicate_succ, List.head?_cons]
  simp only [beq_iff_eq, Option.some.injEq]

/-- The stretch of `b` at the end of a list, which may be empty, set apart. -/
theorem exists_run_at_end (b : α) (l : List α) :
    ∃ front n, l = front ++ List.replicate n b ∧ front.getLast? ≠ some b := by
  refine ⟨l.rdropWhile (· == b), (l.rtakeWhile (· == b)).length, ?_, fun last => ?_⟩
  · have run : l.rtakeWhile (· == b) = List.replicate (l.rtakeWhile (· == b)).length b :=
      List.eq_replicate_of_mem fun c mem =>
        beq_iff_eq.mp (List.mem_rtakeWhile_imp (p := (· == b)) mem)
    rw [← run, List.rdropWhile_append_rtakeWhile]
  · have nonempty : l.rdropWhile (· == b) ≠ [] := fun nil => by rw [nil] at last; cases last
    rw [List.getLast?_eq_some_getLast nonempty, Option.some.injEq] at last
    exact List.rdropWhile_last_not (· == b) l nonempty (beq_iff_eq.mpr last)

/-- An element begins a new stretch unless the one before it is the same. -/
theorem runsOf_concat (a b : α) (l : List α) :
    runsOf a (l ++ [b]) = runsOf a l + if b = a ∧ l.getLast? ≠ some b then 1 else 0 := by
  obtain ⟨front, n, rfl, other⟩ := exists_run_at_end b l
  have whole (n : Nat) : runsOf a (front ++ List.replicate (n + 1) b) =
      runsOf a front + if b = a then 1 else 0 := by
    rw [runsOf_append, runsOf_replicate]
    rintro x last y head rfl
    cases head
    exact other last
  have longer : front ++ List.replicate n b ++ [b] = front ++ List.replicate (n + 1) b := by
    rw [List.append_assoc, List.replicate_succ']
  rw [longer, whole]
  cases n with
  | zero =>
    rw [List.replicate_zero, List.append_nil]
    simp only [other, ne_eq, not_false_eq_true, and_true]
  | succ n =>
    have last : (front ++ List.replicate (n + 1) b).getLast? = some b := by
      rw [List.replicate_succ', ← List.append_assoc, List.getLast?_concat]
    have old : ¬(b = a ∧ (front ++ List.replicate (n + 1) b).getLast? ≠ some b) :=
      fun new => new.2 last
    rw [if_neg old, whole, Nat.add_zero]

end

namespace Udp

open Net

/-! ## Who logs stalls -/

namespace Engine

variable {e e' : Engine} {now : Instant}

def stallsLogged (e : Engine) : Nat := Counter.stalls.tally e.log

theorem stallsLogged_append (more : List Event) (log : e'.log = e.log ++ more) :
    e'.stallsLogged = e.stallsLogged + Counter.stalls.tally more := by
  rw [stallsLogged, log, Counter.tally_append, stallsLogged]

theorem stallsLogged_record {event : Event} (other : Counter.stalls.counts event = false) :
    (e.record event).stallsLogged = e.stallsLogged := by
  rw [stallsLogged_append (e := e) [event] rfl, Counter.tally_singleton, other]
  rfl

theorem stallsLogged_evict (e : Engine) (key : String) (reason : EvictionReason) :
    (e.evict key reason).stallsLogged = e.stallsLogged := by
  unfold evict
  split
  · rfl
  · exact stallsLogged_record rfl

theorem stallsLogged_apply (e : Engine) (now : Instant) (s : Session) (effect : Effect) :
    (e.apply now s effect).stallsLogged = e.stallsLogged := by
  have same := filterMap_log_apply (f := Option.guard fun event => Counter.stalls.counts event)
    (fun _ _ _ => rfl) (fun _ _ => rfl) e now s effect
  rw [List.filterMap_eq_filter] at same
  unfold stallsLogged Counter.tally
  rw [List.countP_eq_length_filter, List.countP_eq_length_filter, same]

theorem stallsLogged_enqueue (s : Session) (key : String) (d : Datagram) :
    (e.enqueue now s key d).stallsLogged = e.stallsLogged := by
  rw [stallsLogged_append _ (log_enqueue key)]
  split <;> rfl

theorem stallsLogged_refuse (d : Datagram) (error : Error) :
    (e.refuse now d error).stallsLogged = e.stallsLogged :=
  stallsLogged_record (e := { e with handled := _, refused := _, stats := _ })
    (Counter.counts_openFailure .stalls e d.source error)

theorem stallsLogged_handleDatagram (e : Engine) (now : Instant) (o : Opening) (d : Datagram) :
    (e.handleDatagram now o d).stallsLogged = e.stallsLogged := by
  obtain ⟨s, -, eq⟩ | ⟨-, ⟨error, eq⟩ | ⟨remote, -, ⟨error, eq⟩ | ⟨-, eq⟩ | ⟨-, s, -, eq⟩⟩⟩ :=
    e.handleDatagram_cases now o d
  · rw [eq, stallsLogged_enqueue]
  · rw [eq, stallsLogged_refuse]
  · rw [eq, stallsLogged_refuse]; rfl
  · rw [eq]; rfl
  · rw [eq, stallsLogged_enqueue]
    exact stallsLogged_record (e := { e with
      resolved := some remote, lastId := _, table := _, stats := _ }) rfl

/-- The manager and the tasks log no stalls. -/
theorem stallsLogged_act {a : Action} (h : e.act now a = some e') :
    e'.stallsLogged = e.stallsLogged := by
  cases a with
  | sweep order =>
    simp only [act] at h
    split at h
    · cases h
      unfold sweep
      generalize e.idleKeys now order = keys
      clear * -
      induction keys generalizing e with
      | nil => rfl
      | cons k keys ih => rw [List.foldl_cons, ih, stallsLogged_evict]
    · cases h
  | report =>
    simp only [act] at h
    split at h
    · obtain ⟨⟨r, reports⟩, -, rfl⟩ := Option.map_eq_some_iff.mp h
      unfold handleReport
      split
      · split
        · exact stallsLogged_evict ..
        · rfl
      · rfl
    · cases h
  | query =>
    simp only [act] at h
    split at h
    · cases h; rfl
    · cases h
  | task place input =>
    obtain ⟨key, s, s', effect, -, -, rfl⟩ | ⟨index, s, s', effect, -, -, rfl⟩ :=
      stepTask_cases h
    · exact stallsLogged_apply ..
    · exact stallsLogged_apply ..

end Engine

/-! ## Histories -/

/-- What a relay has met on the way from its listener into the channel. -/
structure History where
  /-- The datagrams that arrived and what the channel answered when they were first offered. -/
  arrivals : List (Datagram × Channel.Offered) := []
  /-- The datagrams that went into the channel. -/
  put : List Datagram := []
  deriving DecidableEq, Repr

namespace History

/-- What the channel answered to the arrivals. -/
def answers (h : History) : List Channel.Offered := h.arrivals.map (·.2)

/-- How many stretches of arrivals, each as long as can be, found the channel full. -/
def episodes (h : History) : Nat := runsOf .full h.answers

/-- What has gone into the channel after one more datagram was offered to it. -/
def putInto (h : History) (ingest : Channel Datagram) (d : Datagram) : List Datagram :=
  h.put ++ if (ingest.offer d).2 = .taken then [d] else []

theorem putInto_of_taken {h : History} {ingest : Channel Datagram} {d : Datagram}
    (taken : (ingest.offer d).2 = .taken) : h.putInto ingest d = h.put ++ [d] := by
  rw [putInto, if_pos taken]

theorem putInto_of_ne {h : History} {ingest : Channel Datagram} {d : Datagram}
    (refused : (ingest.offer d).2 ≠ .taken) : h.putInto ingest d = h.put := by
  rw [putInto, if_neg refused, List.append_nil]

/-- The history after an action of the relay. -/
def after (h : History) (r : Relay) : Relay.Action → History
  | .receive d =>
    let read := d.truncate r.engine.settings.maxDatagramSize
    { arrivals := h.arrivals ++ [(d, (r.ingest.offer read).2)], put := h.putInto r.ingest read }
  | .handOver => { h with put := r.held.elim h.put (h.putInto r.ingest) }
  | .readFailed _ | .take | .finish _ | .engine _ => h

def along (h : History) (r : Relay) : List (Instant × Relay.Action) → History
  | [] => h
  | (now, a) :: rest => (h.after r a).along ((r.act now a).getD r) rest

section
variable (h : History) (d : Datagram) (answer : Channel.Offered) (put : List Datagram)

theorem answers_append :
    answers { arrivals := h.arrivals ++ [(d, answer)], put } = h.answers ++ [answer] :=
  List.map_append

theorem episodes_append :
    episodes { arrivals := h.arrivals ++ [(d, answer)], put } =
      h.episodes + if answer = .full ∧ h.answers.getLast? ≠ some answer then 1 else 0 := by
  rw [episodes, answers_append, runsOf_concat, episodes]

end

end History

namespace Relay

/-- What the read loop does with a datagram, by the answer of the channel. -/
theorem handOn_cases (r : Relay) (d : Datagram) :
    (r.ingest.closed = true ∧ (r.ingest.offer d).2 = .closed ∧ r.handOn d = r.fail) ∨
    ((r.ingest.offer d).2 = .full ∧ r.stalled = true ∧ r.handOn d = { r with held := some d }) ∨
    ((r.ingest.offer d).2 = .full ∧ r.stalled = false ∧
      r.handOn d = { r with
        held := some d
        stalled := true
        engine := { r.engine with stats.stalls := r.engine.stats.stalls + 1 }.record
          (.ingestStalled r.listen) }) ∨
    ((r.ingest.offer d).2 = .taken ∧
      r.handOn d = { r with
        ingest := { r.ingest with items := r.ingest.items ++ [d] }
        stalled := false }) := by
  obtain ⟨closed, offered⟩ | ⟨-, -, offered⟩ | ⟨-, -, offered⟩ := r.ingest.offer_cases d
  · refine .inl ⟨closed, congrArg (·.2) offered, ?_⟩
    simp only [handOn, offered]
  · cases stalled : r.stalled with
    | true =>
      refine .inr (.inl ⟨congrArg (·.2) offered, rfl, ?_⟩)
      simp only [handOn, offered, stalled, if_true]
    | false =>
      refine .inr (.inr (.inl ⟨congrArg (·.2) offered, rfl, ?_⟩))
      simp only [handOn, offered, stalled, Bool.false_eq_true, if_false]
  · refine .inr (.inr (.inr ⟨congrArg (·.2) offered, ?_⟩))
    simp only [handOn, offered]

/-- The history tells what the relay did with what it read. -/
structure Recalls (h : History) (r : Relay) : Prop where
  arrived : r.received = h.arrivals.map (·.1.truncate r.engine.settings.maxDatagramSize)
  put : r.result = none → r.received = h.put ++ r.held.toList
  flag : r.result = none → (r.stalled = true ↔ h.answers.getLast? = some .full)
  stalls : r.engine.stallsLogged = h.episodes
  ended : ∀ error, r.result = some error → error = .managerStopped ∧ r.held = none ∧
    r.engine.running = false ∧ ∃ d, r.received = h.put ++ [d]

namespace Recalls

variable {h : History} {r r' : Relay} {now : Instant}

theorem start {l : Listener} {cores : UInt64} {memory : Nat} {began : Instant} {start : Relay}
    (started : l.start? cores memory began = some start) : Recalls {} start := by
  obtain ⟨-, -, rfl⟩ := Listener.start?_eq_some_iff.mp started
  exact ⟨rfl, fun _ => rfl, fun _ => iff_of_false Bool.false_ne_true nofun, rfl, nofun⟩

theorem result_of_held (recalls : Recalls h r) {d : Datagram} (held : r.held = some d) :
    r.result = none := by
  cases result : r.result with
  | none => rfl
  | some error =>
    obtain ⟨-, none_held, -⟩ := recalls.ended error result
    rw [held] at none_held
    cases none_held

theorem result_of_running (recalls : Recalls h r) (running : r.engine.running = true) :
    r.result = none := by
  cases result : r.result with
  | none => rfl
  | some error =>
    obtain ⟨-, -, gone, -⟩ := recalls.ended error result
    rw [running] at gone
    cases gone

/-- Nobody takes the datagram that was read last. -/
theorem fail (stopped : r.engine.running = false)
    (arrived : r.received = h.arrivals.map (·.1.truncate r.engine.settings.maxDatagramSize))
    (stalls : r.engine.stallsLogged = h.episodes) {d : Datagram}
    (last : r.received = h.put ++ [d]) : Recalls h r.fail := by
  refine ⟨arrived, fun going => (by cases going), fun going => (by cases going), stalls,
    fun error same => ?_⟩
  cases same
  exact ⟨rfl, rfl, stopped, d, last⟩

/-- Handing on `read`, which is what the buffer holds of the datagram `d` that has arrived. What the
channel answers decides whether it is in the channel, is held or ends the read loop, and whether a
stretch of stalls begins. -/
theorem handOn {d read : Datagram} (alone : r.ingest.closed = !r.engine.running)
    (reading : r.isReading = true) (fits : d.truncate r.engine.settings.maxDatagramSize = read)
    (arrived : r.received =
      h.arrivals.map (·.1.truncate r.engine.settings.maxDatagramSize) ++ [read])
    (put : r.received = h.put ++ [read])
    (flag : r.stalled = true ↔ h.answers.getLast? = some .full)
    (stalls : r.engine.stallsLogged = h.episodes) :
    Recalls ⟨h.arrivals ++ [(d, (r.ingest.offer read).2)], h.putInto r.ingest read⟩
      (r.handOn read) := by
  obtain ⟨none_held, going⟩ := isReading_iff.mp reading
  have ended {P : Error → Prop} (error : Error) (same : r.result = some error) : P error := by
    rw [going] at same
    cases same
  have arrived (answer : Channel.Offered) : r.received =
      (h.arrivals ++ [(d, answer)]).map (·.1.truncate r.engine.settings.maxDatagramSize) := by
    rw [List.map_append, arrived, ← fits]
    rfl
  have last (answer : Channel.Offered) (put : List Datagram) :
      (History.answers ⟨h.arrivals ++ [(d, answer)], put⟩).getLast? = some answer := by
    rw [History.answers_append, List.getLast?_concat]
  obtain ⟨closed, offered, eq⟩ | ⟨offered, stalled, eq⟩ | ⟨offered, stalled, eq⟩ | ⟨offered, eq⟩ :=
    r.handOn_cases read
  · rw [History.putInto_of_ne (by simp [offered]), offered, eq]
    rw [closed, eq_comm, Bool.not_eq_true'] at alone
    refine fail alone (arrived .closed) ?_ put
    rw [History.episodes_append, if_neg (by simp), stalls]
    rfl
  · rw [History.putInto_of_ne (by simp [offered]), offered, eq]
    refine ⟨arrived .full, fun _ => put, fun _ => iff_of_true stalled (last ..), ?_, ended⟩
    rw [History.episodes_append, if_neg fun new => new.2 (flag.mp stalled), Nat.add_zero]
    exact stalls
  · rw [History.putInto_of_ne (by simp [offered]), offered, eq]
    refine ⟨arrived .full, fun _ => put, fun _ => iff_of_true rfl (last ..), ?_, ended⟩
    have new : h.answers.getLast? ≠ some .full := fun full => by
      rw [flag.mpr full] at stalled
      cases stalled
    rw [History.episodes_append, if_pos ⟨rfl, new⟩, ← stalls]
    exact Engine.stallsLogged_append (e := r.engine) [.ingestStalled r.listen] rfl
  · rw [History.putInto_of_taken offered, offered, eq]
    have free : (History.answers
        ⟨h.arrivals ++ [(d, .taken)], h.put ++ [read]⟩).getLast? ≠ some .full := by
      rw [last]
      nofun
    refine ⟨arrived .taken, fun _ => ?_, fun _ => iff_of_false Bool.false_ne_true free, ?_, ended⟩
    · show r.received = h.put ++ [read] ++ r.held.toList
      rw [put, none_held, Option.toList_none, List.append_nil]
    · rw [History.episodes_append, if_neg (by simp)]
      exact stalls

theorem receive (recalls : Recalls h r) (inOrder : r.InOrder) (reading : r.isReading = true)
    (d : Datagram) : Recalls (h.after r (.receive d)) (r.receive d) := by
  obtain ⟨none_held, going⟩ := isReading_iff.mp reading
  have put := recalls.put going
  rw [none_held, Option.toList_none, List.append_nil] at put
  exact handOn (r := r.note _) inOrder.closed reading rfl (congrArg (· ++ _) recalls.arrived)
    (congrArg (· ++ _) put) (recalls.flag going) recalls.stalls

theorem handOver (recalls : Recalls h r) (inOrder : r.InOrder)
    (act : r.act now .handOver = some r') : Recalls (h.after r .handOver) r' := by
  simp only [Relay.act] at act
  split at act
  · cases act
  · next d held =>
    have going := recalls.result_of_held held
    have put := recalls.put going
    rw [held, Option.toList_some] at put
    simp only [History.after, held, Option.elim_some]
    obtain ⟨closed, offered⟩ | ⟨-, -, offered⟩ | ⟨-, -, offered⟩ := r.ingest.offer_cases d
    · rw [History.putInto_of_ne (by simp [offered])]
      rw [offered] at act
      cases act
      have stopped := inOrder.closed
      rw [closed, eq_comm, Bool.not_eq_true'] at stopped
      exact fail stopped recalls.arrived recalls.stalls put
    · rw [offered] at act; cases act
    · rw [History.putInto_of_taken (by rw [offered])]
      rw [offered] at act
      cases act
      refine ⟨recalls.arrived, fun _ => ?_, recalls.flag, recalls.stalls, fun error ended => ?_⟩
      · rw [Option.toList_none, List.append_nil]; exact put
      · rw [going] at ended; cases ended

/-- What the manager and the tasks do leaves the read loop and its history alone. -/
theorem of_engine (recalls : Recalls h r) (ingest : Channel Datagram) (inHand : Option Datagram)
    {e : Engine} (settings : e.settings = r.engine.settings)
    (stalls : e.stallsLogged = r.engine.stallsLogged)
    (stopped : r.engine.running = false → e.running = false) :
    Recalls h { r with ingest, inHand, engine := e } := by
  refine ⟨?_, recalls.put, recalls.flag, stalls.trans recalls.stalls, fun error ended => ?_⟩
  · show r.received = h.arrivals.map (·.1.truncate e.settings.maxDatagramSize)
    rw [settings]
    exact recalls.arrived
  · obtain ⟨same, none_held, gone, last⟩ := recalls.ended error ended
    exact ⟨same, none_held, stopped gone, last⟩

theorem act {a : Action} (recalls : Recalls h r) (inOrder : r.InOrder)
    (act : r.act now a = some r') : Recalls (h.after r a) r' := by
  have settings := (act_moves act).settings
  cases a with
  | receive d =>
    simp only [Relay.act] at act
    split at act
    · next reading => cases act; exact recalls.receive inOrder reading d
    · cases act
  | readFailed cause =>
    simp only [Relay.act] at act
    split at act
    · cases act
      exact recalls.of_engine r.ingest r.inHand settings
        (Engine.stallsLogged_record (e := { r.engine with stats := _ }) rfl) id
    · cases act
  | handOver => exact recalls.handOver inOrder act
  | take =>
    obtain ⟨-, d, ingest, -, rfl⟩ := act_take_eq_some act
    exact recalls.of_engine ingest (some d) rfl rfl id
  | finish o =>
    obtain ⟨running, d, -, rfl⟩ := act_finish_eq_some act
    rw [engine_follow] at settings
    have stopped (gone : r.engine.running = false) :
        (r.engine.handleDatagram now o d).running = false := by
      rw [running] at gone
      cases gone
    have stalls := Engine.stallsLogged_handleDatagram r.engine now o d
    unfold follow
    split
    · exact recalls.of_engine r.ingest none settings stalls stopped
    · exact recalls.of_engine r.ingest.close none settings stalls stopped
  | engine a =>
    obtain ⟨e, -, step, rfl⟩ := act_engine_eq_some act
    have running : e.running = r.engine.running :=
      Engine.act_frame (·.running) (by intros; rfl) step
    exact recalls.of_engine r.ingest r.inHand settings (Engine.stallsLogged_act step) running.trans

theorem run? (recalls : Recalls h r) (inOrder : r.InOrder) {t t' : Instant}
    {actions : List (Instant × Action)} (ran : r.run? t actions = some (t', r')) :
    Recalls (h.along r actions) r' := by
  induction actions generalizing h r t with
  | nil => cases ran; exact recalls
  | cons p rest ih =>
    obtain ⟨now, a⟩ := p
    simp only [Relay.run?] at ran
    split at ran
    · obtain ⟨next, act, ran⟩ := Option.bind_eq_some_iff.mp ran
      simp only [History.along, act, Option.getD_some]
      exact ih (recalls.act inOrder act) (inOrder.act act) ran
    · cases ran

end Recalls

section
variable {r r' : Relay} {now : Instant}

theorem handOver_of_room (isOpen : r.ingest.closed = false) {d : Datagram} (held : r.held = some d)
    (room : r.ingest.items.length < r.ingest.capacity) (now : Instant) :
    r.act now .handOver = some { r with
      ingest := { r.ingest with items := r.ingest.items ++ [d] }
      held := none } := by
  obtain ⟨closed, -⟩ | ⟨-, full, -⟩ | ⟨-, -, offered⟩ := r.ingest.offer_cases d
  · rw [isOpen] at closed; cases closed
  · omega
  · simp only [act, held, offered]

/-- Without a manager, a datagram that waits ends the relay. -/
theorem handOver_ends (closed : r.ingest.closed = true) {d : Datagram} (held : r.held = some d)
    (now : Instant) : r.act now .handOver = some r.fail := by
  obtain ⟨-, offered⟩ | ⟨isOpen, -⟩ | ⟨isOpen, -⟩ := r.ingest.offer_cases d
  · simp only [act, held, offered]
  · rw [closed] at isOpen; cases isOpen
  · rw [closed] at isOpen; cases isOpen

/-- A read loop that has ended reads no more. -/
theorem act_of_ended {a : Action} (ended : r.result.isSome = true) (none_held : r.held = none)
    (h : r.act now a = some r') : r'.received = r.received ∧ r'.result = r.result := by
  have ceased : r.isReading = false := by
    rw [isReading, ← Option.not_isSome r.result, ended]
    exact Bool.and_false _
  cases a with
  | receive d | readFailed cause =>
    simp only [act, ceased, Bool.false_eq_true, if_false] at h
    cases h
  | handOver =>
    simp only [act, none_held] at h
    cases h
  | take =>
    obtain ⟨-, d, ingest, -, rfl⟩ := act_take_eq_some h
    exact ⟨rfl, rfl⟩
  | finish o =>
    obtain ⟨-, d, -, rfl⟩ := act_finish_eq_some h
    unfold follow
    split <;> exact ⟨rfl, rfl⟩
  | engine a =>
    obtain ⟨e, -, -, rfl⟩ := act_engine_eq_some h
    exact ⟨rfl, rfl⟩

end

/-- What goes through the read loop, told against the history of the run. -/
structure PassesOn (h : History) (r : Relay) : Prop where
  /-- What was read is what arrived, as far as the buffer held it. -/
  arrived : r.received = h.arrivals.map (·.1.truncate r.engine.settings.maxDatagramSize)
  /-- It all went into the channel, in order, but for a datagram that is held. -/
  put : r.result = none → r.received = h.put ++ r.held.toList
  /-- What went in is what the manager dealt with, what is in its hand and what is still there. -/
  channel : r.engine.running = true →
    h.put = r.engine.handled.map (·.2) ++ (r.inHand.toList ++ r.ingest.items)
  /-- A datagram that is held goes in as soon as there is room. -/
  room : r.engine.running = true → ∀ d, r.held = some d →
    r.ingest.items.length < r.ingest.capacity → ∀ now, r.act now .handOver = some { r with
      ingest := { r.ingest with items := r.ingest.items ++ [d] }
      held := none }
  stalls : Counter.stalls.tally r.engine.log = h.episodes
  counted : r.engine.stats.stalls = .ofNat h.episodes
  /-- A read that fails changes a counter and the log, and no stall is logged. -/
  readFailed : ∀ now cause r', r.act now (.readFailed cause) = some r' →
    { r' with engine := r.engine } = r ∧
      Counter.stalls.tally r'.engine.log = Counter.stalls.tally r.engine.log
  serving : r.engine.running = true → r.result = none
  /-- Without a manager, the next datagram that is handed over ends the read loop. -/
  gone : r.engine.running = false → r.result = none → ∀ now,
    (r.held = none → ∀ d, (r.act now (.receive d)).bind (·.result) = some .managerStopped) ∧
    ∀ d, r.held = some d → (r.act now .handOver).bind (·.result) = some .managerStopped
  /-- That datagram is the last that was read, and the only one that went nowhere. -/
  ended : ∀ error, r.result = some error → error = .managerStopped ∧
    (∃ d, r.received = h.put ++ [d]) ∧
    ∀ now a r', r.act now a = some r' → r'.received = r.received ∧ r'.result = r.result

theorem Recalls.passesOn {h : History} {r : Relay} (recalls : Recalls h r) (inOrder : r.InOrder)
    (counted : r.engine.stats.stalls = .ofNat (Counter.stalls.tally r.engine.log)) :
    PassesOn h r := by
  have closed := inOrder.closed
  refine ⟨recalls.arrived, recalls.put, fun running => ?_, fun running d held room now => ?_,
    recalls.stalls, ?_, fun now cause r' act => ?_, recalls.result_of_running,
    fun gone going now => ⟨?_, ?_⟩,
    fun error ended => ?_⟩
  · have kept := inOrder.kept running
    rw [recalls.put (recalls.result_of_running running), ← List.append_assoc r.inHand.toList,
      ← List.append_assoc] at kept
    exact List.append_cancel_right kept
  · rw [running] at closed
    exact handOver_of_room closed held room now
  · rw [counted, ← recalls.stalls]
    rfl
  · simp only [Relay.act] at act
    split at act
    · cases act
      exact ⟨rfl, Engine.stallsLogged_record (e := { r.engine with stats := _ }) rfl⟩
    · cases act
  · intro none_held d
    rw [gone] at closed
    obtain ⟨r', act, ends⟩ := receive_ends closed (isReading_iff.mpr ⟨none_held, going⟩) now d
    rw [act]
    exact ends
  · intro d held
    rw [gone] at closed
    rw [handOver_ends closed held]
    rfl
  · obtain ⟨same, none_held, -, last⟩ := recalls.ended error ended
    exact ⟨same, last, fun now a r' act =>
      act_of_ended (Option.isSome_of_eq_some ended) none_held act⟩

/-- Whatever arrives, whenever reads fail, however the manager takes what is in a channel of any
size, and whenever it ends. -/
theorem passesOn_of_run {l : Listener} {cores : UInt64} {memory : Nat} {began t : Instant}
    {start r : Relay} {actions : List (Instant × Action)}
    (started : l.start? cores memory began = some start)
    (ran : start.run? began actions = some (t, r)) :
    PassesOn (History.along {} start actions) r := by
  have reached : Reachable start t r := (Reachable.start began).run? ran
  have first := inOrder_start started
  exact ((Recalls.start started).run? first ran).passesOn (reached.inOrder first)
    (reached.tallied started .stalls)

/-- A relay with one slot towards its manager, which ends with the first session that it opens. -/
def doomedListener : Listener :=
  ⟨.v4 ⟨127, 0, 0, 1⟩ 7000, "example.net:53",
    { outboundQueue := 0x2000000000000000, ingestPerCore := 1, eventQueue := 1 }⟩

/-- The second and the third datagram find the channel full, with a read that fails between them,
the fourth does not, and the fifth finds it full again and then the manager gone. -/
def doomedActions : List (Instant × Action) :=
  let datagram (n : UInt8) : Action := .receive ⟨.v4 ⟨10, 0, 0, 1⟩ 4001, [n]⟩
  let refused : Opening := ⟨.ok [.v4 ⟨192, 0, 2, 1⟩ 53], .error .networkUnreachable⟩
  [(.ofMillis 1, datagram 1), (.ofMillis 2, datagram 2), (.ofMillis 3, .take),
   (.ofMillis 3, .finish refused),
   (.ofMillis 3, .handOver), (.ofMillis 4, .readFailed .connectionRefused),
   (.ofMillis 5, datagram 3), (.ofMillis 6, .take), (.ofMillis 6, .finish refused),
   (.ofMillis 6, .handOver),
   (.ofMillis 7, .take), (.ofMillis 7, .finish refused), (.ofMillis 8, datagram 4),
   (.ofMillis 9, datagram 5),
   (.ofMillis 10, .take), (.ofMillis 10, .finish { refused with dial := .ok () }),
   (.ofMillis 11, .handOver)]

theorem passesOn_doomed : ∃ start t r, doomedListener.start? 1 65536 .zero = some start ∧
    start.run? .zero doomedActions = some (t, r) ∧
    PassesOn (History.along {} start doomedActions) r ∧
    (History.along {} start doomedActions).episodes = 2 ∧
    (History.along {} start doomedActions).put.length = 4 ∧ r.received.length = 5 ∧
    r.result = some .managerStopped := by
  have run : (doomedListener.start? 1 65536 .zero).any (fun start =>
      (start.run? .zero doomedActions).any fun p =>
        (History.along {} start doomedActions).episodes = 2 &&
          (History.along {} start doomedActions).put.length = 4 &&
          p.2.received.length = 5 && p.2.result = some .managerStopped) = true := by
    decide +kernel
  obtain ⟨start, started, run⟩ := (Option.any_eq_true _ _).mp run
  obtain ⟨⟨t, r⟩, ran, shape⟩ := (Option.any_eq_true _ _).mp run
  simp only [Bool.and_eq_true, decide_eq_true_eq] at shape
  obtain ⟨⟨⟨episodes, put⟩, received⟩, result⟩ := shape
  exact ⟨start, t, r, started, ran, passesOn_of_run started ran, episodes, put, received, result⟩

end Relay

end Udp

end SocketRelay
