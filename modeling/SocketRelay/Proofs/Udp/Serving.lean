import SocketRelay.Proofs.Udp.ReadLoop
import SocketRelay.Proofs.Udp.Settings

/-!
# How long a relay serves

A relay whose settings passed the check can still be unable to serve. Its
channels or its receive buffer may not be possible, so that it ends before it
reads. The first sweep may be beyond the clock, or the queue of a session may not
be possible, so that the manager ends and the relay with it at the next datagram.
If none of this is so, the relay serves for good, whatever happens
(`Listener.servesIfFit`).
-/

namespace SocketRelay.Udp

open Net

namespace Engine

variable {e e' : Engine} {now : Instant}

/-- The manager ends only for the queue of a session. -/
theorem running_move (m : Move now e e')
    (size : Channel.canHave e.settings.outboundQueue.toNat = true) : e'.running = e.running := by
  cases m with
  | stopped impossible => rw [size] at impossible; cases impossible
  | received | readFailed | stalled | resolved | refused | created | reportTaken => rfl
  | enqueued live => exact enqueue_frame (·.running) (by intros; rfl) _
  | swept | reported => exact evict_frame (·.running) (by intros; rfl) ..
  | stepped | drained => exact apply_frame (·.running) (by intros; rfl)

/-- The manager ends if it has to open a session and cannot have a queue for it. -/
theorem handleDatagram_stops {d : Datagram} (now : Instant) (remote : Endpoint)
    (absent : e.session? d.source.text = none)
    (size : Channel.canHave e.settings.outboundQueue.toNat = false) :
    (e.handleDatagram now ⟨.ok [remote], .ok ()⟩ d).running = false := by
  have found : ∃ address, e.resolve (.ok [remote]) = .ok address := by
    unfold resolve
    split <;> exact ⟨_, rfl⟩
  obtain ⟨address, found⟩ := found
  simp only [handleDatagram, openSession, absent, found, size, Bool.false_eq_true, if_false]
  rfl

end Engine

namespace Relay

variable {r r' : Relay} {now : Instant}

theorem result_handOn (isOpen : r.ingest.closed = false) (d : Datagram) :
    (r.handOn d).result = r.result := by
  obtain ⟨gone, -⟩ | ⟨-, -, offered⟩ | ⟨-, -, offered⟩ := r.ingest.offer_cases d
  · rw [isOpen] at gone; cases gone
  · simp only [handOn, offered]
    split <;> rfl
  · simp only [handOn, offered]

/-- The read loop goes on as long as it can hand datagrams over. -/
theorem result_act {a : Action} (h : r.act now a = some r') (isOpen : r.ingest.closed = false) :
    r'.result = r.result := by
  cases a with
  | receive d =>
    simp only [act] at h
    split at h
    · cases h
      exact result_handOn (r := r.note _) isOpen _
    · cases h
  | readFailed cause =>
    simp only [act] at h
    split at h
    · cases h; rfl
    · cases h
  | handOver =>
    simp only [act] at h
    split at h
    · cases h
    · next d held =>
      obtain ⟨gone, -⟩ | ⟨-, -, offered⟩ | ⟨-, -, offered⟩ := r.ingest.offer_cases d
      · rw [isOpen] at gone; cases gone
      · rw [offered] at h; cases h
      · rw [offered] at h; cases h; rfl
  | take =>
    obtain ⟨-, d, ingest, -, rfl⟩ := act_take_eq_some h
    rfl
  | finish o =>
    obtain ⟨-, d, -, rfl⟩ := act_finish_eq_some h
    unfold follow
    split <;> rfl
  | engine a =>
    obtain ⟨e, -, -, rfl⟩ := act_engine_eq_some h
    rfl

theorem handOn_ends (closed : r.ingest.closed = true) (d : Datagram) :
    (r.handOn d).result = some .managerStopped := by
  obtain ⟨-, offered⟩ | ⟨isOpen, -⟩ | ⟨isOpen, -⟩ := r.ingest.offer_cases d
  · simp only [handOn, offered]
    rfl
  · rw [closed] at isOpen; cases isOpen
  · rw [closed] at isOpen; cases isOpen

/-- Without a manager, the next datagram ends the relay. -/
theorem receive_ends (closed : r.ingest.closed = true) (reading : r.isReading = true)
    (now : Instant) (d : Datagram) :
    ∃ r', r.act now (.receive d) = some r' ∧ r'.result = some .managerStopped :=
  ⟨r.receive d, if_pos reading, handOn_ends (r := r.note _) closed _⟩

theorem receive_eq_of_room (isOpen : r.ingest.closed = false)
    (room : r.ingest.items.length < r.ingest.capacity) (d : Datagram) :
    r.receive d = { r.note (d.truncate r.engine.settings.maxDatagramSize) with
      ingest := { r.ingest with
        items := r.ingest.items ++ [d.truncate r.engine.settings.maxDatagramSize] }
      stalled := false } := by
  obtain ⟨closed, -⟩ | ⟨-, full, -⟩ | ⟨-, -, offered⟩ :=
    r.ingest.offer_cases (d.truncate r.engine.settings.maxDatagramSize)
  · rw [isOpen] at closed; cases closed
  · omega
  · simp only [receive, handOn, note, offered]

theorem exists_take {d : Datagram} {rest : List Datagram} (free : r.isFree = true)
    (items : r.ingest.items = d :: rest) (now : Instant) : ∃ r', r.act now .take = some r' ∧
      r'.inHand = some d ∧ r'.engine = r.engine ∧ r'.isReading = r.isReading := by
  refine ⟨{ r with ingest := { r.ingest with items := rest }, inHand := some d }, ?_, rfl, rfl, rfl⟩
  simp only [act, free, Channel.next?, items, if_true, Option.map_some]

/-- The manager ends with a datagram in its hand, and the channel goes with it. -/
theorem finish_stops {d : Datagram} (running : r.engine.running = true)
    (inHand : r.inHand = some d) (absent : r.engine.session? d.source.text = none)
    (size : Channel.canHave r.engine.settings.outboundQueue.toNat = false) (now : Instant)
    (remote : Endpoint) : ∃ r', r.act now (.finish ⟨.ok [remote], .ok ()⟩) = some r' ∧
      r'.ingest.closed = true ∧ r'.isReading = r.isReading := by
  have stops := Engine.handleDatagram_stops now remote absent size
  let r' : Relay := { r with
    inHand := none
    engine := r.engine.handleDatagram now ⟨.ok [remote], .ok ()⟩ d }
  refine ⟨r'.follow, by simp only [act, running, inHand, if_true, Option.map_some]; rfl, ?_⟩
  rw [follow, if_neg (by simp [r', stops])]
  exact ⟨rfl, rfl⟩

/-- The manager is there and the read loop goes on, whatever happens. -/
def Serves (start : Relay) : Prop :=
  ∀ t r, Reachable start t r → r.engine.running = true ∧ r.result = none

end Relay

namespace Listener

open Engine Relay

variable {l : Listener} {cores : UInt64} {memory : Nat} {began : Instant} {start : Relay}

theorem hasChannels_iff : l.hasChannels cores = true ↔
    Channel.canHave (l.settings.ingestCapacity cores).toNat = true ∧
      Channel.canHave l.settings.eventQueue.toNat = true := Bool.and_eq_true_iff

theorem canBuffer_iff {size : UInt64} : Payload.canBuffer memory size = true ↔
    size.toNat ≤ Payload.maxBuffer ∧ size.toNat ≤ memory := by
  simp only [Payload.canBuffer, Bool.and_eq_true, decide_eq_true_eq]

section
variable (started : l.start? cores memory began = some start)
include started

/-- A manager that can sweep and can open sessions stays. -/
theorem running_of_canHave (sweeps : canSweep began l.settings.sweepInterval = true)
    (size : Channel.canHave l.settings.outboundQueue.toNat = true) {t : Instant} {r : Relay}
    (reached : Reachable start t r) : r.engine.running = true := by
  have kept : r.engine.running = true ∧ r.engine.settings = l.settings := by
    refine reached.keeps (P := fun _ e => e.running = true ∧ e.settings = l.settings)
      (fun _ h => h) (fun m h => ⟨?_, (settings_move m).trans h.2⟩) fun _ => ?_
    · rw [running_move m (by rw [h.2]; exact size)]
      exact h.1
    · rw [Listener.engine_of_start? started]
      exact ⟨sweeps, rfl⟩
  exact kept.1

theorem serves_of_canHave (sweeps : canSweep began l.settings.sweepInterval = true)
    (size : Channel.canHave l.settings.outboundQueue.toNat = true) : start.Serves := by
  intro t r reached
  refine ⟨running_of_canHave started sweeps size reached, ?_⟩
  induction reached with
  | start =>
    obtain ⟨-, -, rfl⟩ := start?_eq_some_iff.mp started
    rfl
  | step before _ act ih =>
    have closed := (before.inOrder (inOrder_start started)).closed
    rw [running_of_canHave started sweeps size before] at closed
    exact (result_act act closed).trans ih

/-- Without a sweep there is no manager from the start. -/
theorem ends_of_not_canSweep (stuck : canSweep began l.settings.sweepInterval = false)
    (d : Datagram) : ∃ t r, Reachable start t r ∧ r.result = some .managerStopped := by
  obtain ⟨-, -, same⟩ := start?_eq_some_iff.mp started
  have closed : start.ingest.closed = true := by rw [same, stuck]; rfl
  have reading : start.isReading = true := by rw [same]; rfl
  obtain ⟨r, act, ended⟩ := receive_ends closed reading began d
  exact ⟨began, r, (Reachable.start began).step (Nat.le_refl _) act, ended⟩

/-- Without a queue for sessions, the first session that can be dialled takes the manager with it,
and the next datagram ends the relay. -/
theorem ends_of_not_canHave (sweeps : canSweep began l.settings.sweepInterval = true)
    (size : Channel.canHave l.settings.outboundQueue.toNat = false) (d : Datagram)
    (remote : Endpoint) : ∃ t r, Reachable start t r ∧ r.result = some .managerStopped := by
  obtain ⟨channels, -, same⟩ := start?_eq_some_iff.mp started
  obtain ⟨possible, -⟩ := hasChannels_iff.mp channels
  have isOpen : start.ingest.closed = false := by rw [same, sweeps]; rfl
  have room : start.ingest.items.length < start.ingest.capacity := by
    rw [same]
    simp only [Channel.canHave, Bool.and_eq_true, decide_eq_true_eq] at possible
    exact possible.1
  have reading : start.isReading = true := by rw [same]; rfl
  have received : start.act began (.receive d) = some (start.receive d) := if_pos reading
  have first := receive_eq_of_room isOpen room d
  have free : (start.receive d).isFree = true :=
    isFree_iff.mpr ⟨by rw [first, same]; exact sweeps, by rw [first, same]; rfl⟩
  obtain ⟨busy, taken, inHand, engine, reads⟩ := exists_take free (by rw [first, same]; rfl) began
  obtain ⟨r, finished, closed, stillReading⟩ :=
    finish_stops (by rw [engine, first, same]; exact sweeps) inHand
      (by rw [engine, first, same]; rfl) (by rw [engine, first, same]; exact size) began remote
  have reading' : r.isReading = true := by rw [stillReading, reads, first, same]; rfl
  obtain ⟨r', act, ended⟩ := receive_ends closed reading' began d
  have reached := (Reachable.start began).step (Nat.le_refl _) received
  have reached := (reached.step (Nat.le_refl _) taken).step (Nat.le_refl _) finished
  exact ⟨began, r', reached.step (Nat.le_refl _) act, ended⟩

end

/-- What settings that passed the check need besides, for the relay to start and to serve. -/
structure ServesIfFit (l : Listener) (cores : UInt64) (memory : Nat) (began : Instant) : Prop where
  /-- The channel from the read loop has as many slots as asked for, unless they do not fit into
  sixty-four bits. -/
  slots : (l.settings.ingestCapacity cores).toNat =
      max (cores.toNat * l.settings.ingestPerCore.toNat) 1 ↔
    cores.toNat * l.settings.ingestPerCore.toNat < UInt64.size
  /-- The relay comes to read datagrams if it can have its channels and its receive buffer. -/
  starts : (∃ start, l.start? cores memory began = some start) ↔
    (l.settings.ingestCapacity cores).toNat ≤ Channel.maxCapacity ∧
      l.settings.eventQueue.toNat ≤ Channel.maxCapacity ∧
      l.settings.maxDatagramSize.toNat ≤ Payload.maxBuffer ∧
      l.settings.maxDatagramSize.toNat ≤ memory
  serves : ∀ start, l.start? cores memory began = some start →
    (start.Serves ↔ began.reaches l.settings.sweepInterval = true ∧
      l.settings.outboundQueue.toNat ≤ Channel.maxCapacity)
  ends : ∀ start, l.start? cores memory began = some start → ¬ start.Serves →
    ∃ t r, Reachable start t r ∧ r.result = some .managerStopped

theorem servesIfFit (checked : l.settings.check = .ok ()) (cores : UInt64) (memory : Nat)
    (began : Instant) : l.ServesIfFit cores memory began := by
  have nonzero := Settings.check_eq_ok_iff.mp checked
  have slots := Settings.toNat_ingestCapacity_eq_iff l.settings cores
  have ingest : Channel.canHave (l.settings.ingestCapacity cores).toNat = true ↔
      (l.settings.ingestCapacity cores).toNat ≤ Channel.maxCapacity := by
    have := l.settings.toNat_ingestCapacity cores
    simp only [Channel.canHave, Bool.and_eq_true, decide_eq_true_eq]
    omega
  have reports := Settings.canHave_iff (nonzero .eventQueue)
  have queue := Settings.canHave_iff (nonzero .outboundQueue)
  have sweep : canSweep began l.settings.sweepInterval =
      began.reaches l.settings.sweepInterval := by
    have time : l.settings.sweepInterval.isZero = false := nonzero .sweepInterval
    rw [canSweep, time, Bool.not_false, Bool.true_and]
  have starts : (∃ start, l.start? cores memory began = some start) ↔
      l.hasChannels cores = true ∧
        Payload.canBuffer memory l.settings.maxDatagramSize = true := by
    constructor
    · rintro ⟨start, started⟩
      obtain ⟨channels, buffer, -⟩ := start?_eq_some_iff.mp started
      exact ⟨channels, buffer⟩
    · rintro ⟨channels, buffer⟩
      exact ⟨_, start?_eq_some_iff.mpr ⟨channels, buffer, rfl⟩⟩
  have ends (start : Relay) (started : l.start? cores memory began = some start)
      (unfit : ¬ (began.reaches l.settings.sweepInterval = true ∧
        l.settings.outboundQueue.toNat ≤ Channel.maxCapacity)) :
      ∃ t r, Reachable start t r ∧ r.result = some .managerStopped := by
    rw [← sweep, ← queue] at unfit
    cases sweeps : canSweep began l.settings.sweepInterval with
    | false => exact ends_of_not_canSweep started sweeps ⟨default, []⟩
    | true =>
      have size := Bool.eq_false_iff.mpr fun size => unfit ⟨sweeps, size⟩
      exact ends_of_not_canHave started sweeps size ⟨default, []⟩ default
  have serves (start : Relay) (started : l.start? cores memory began = some start) :
      start.Serves ↔ began.reaches l.settings.sweepInterval = true ∧
        l.settings.outboundQueue.toNat ≤ Channel.maxCapacity := by
    constructor
    · intro serves
      by_contra unfit
      obtain ⟨t, r, reached, ended⟩ := ends start started unfit
      rw [(serves t r reached).2] at ended
      cases ended
    · rintro ⟨sweeps, size⟩
      exact serves_of_canHave started (sweep.trans sweeps) (queue.mpr size)
  refine ⟨slots, ?_, serves, fun start started unfit => ?_⟩
  · rw [starts, hasChannels_iff, canBuffer_iff, ingest, reports, and_assoc]
  · exact ends start started (mt (serves start started).mpr unfit)

def unconfigured : Listener := ⟨.v4 ⟨127, 0, 0, 1⟩ 7000, "example.net:53", {}⟩

theorem servesIfFit_unconfigured : unconfigured.settings.check = .ok () ∧
    unconfigured.ServesIfFit 8 65536 (.ofMillis 1000) ∧
    ∃ start, unconfigured.start? 8 65536 (.ofMillis 1000) = some start ∧ start.Serves := by
  have checked : unconfigured.settings.check = .ok () := by decide +kernel
  have fit := servesIfFit checked 8 65536 (.ofMillis 1000)
  obtain ⟨start, started⟩ := fit.starts.mpr (by decide +kernel)
  exact ⟨checked, fit, start, started, (fit.serves start started).mpr (by decide +kernel)⟩

/-- A relay that sweeps after the longest time that a configuration file can name. -/
def distantSweep : Listener :=
  ⟨.v4 ⟨127, 0, 0, 1⟩ 7000, "example.net:53", { sweepIntervalSecs := 0x7FFFFFFFFFFFFFFF }⟩

/-- A relay that takes datagrams of any size that a configuration file can name. -/
def hugeDatagrams : Listener :=
  ⟨.v4 ⟨127, 0, 0, 1⟩ 7000, "example.net:53", { maxDatagramSize := 0x7FFFFFFFFFFFFFFF }⟩

/-- The check accepts the settings, but the relay has no manager from the start and ends with the
first datagram. It also accepts a datagram size for which a machine with a terabyte has no buffer,
and slots per core that on four cores do not fit into sixty-four bits. -/
theorem distantSweep_ends : distantSweep.settings.check = .ok () ∧
    (∃ start t r, distantSweep.start? 4 65536 (.ofMillis 1000) = some start ∧
      start.engine.running = false ∧ Reachable start t r ∧ r.result = some .managerStopped) ∧
    (hugeDatagrams.settings.check = .ok () ∧
      hugeDatagrams.start? 4 0x10000000000 (.ofMillis 1000) = none) ∧
    ∃ s : Settings, s.check = .ok () ∧ s.ingestPerCore = 0x7FFFFFFFFFFFFFFF ∧
      UInt64.size ≤ 4 * s.ingestPerCore.toNat := by
  refine ⟨by decide +kernel, ?_, ⟨by decide +kernel, by decide +kernel⟩,
    { ingestPerCore := 0x7FFFFFFFFFFFFFFF }, by decide +kernel, rfl, by decide⟩
  have started : distantSweep.start? 4 65536 (.ofMillis 1000) = some _ :=
    start?_eq_some_iff.mpr ⟨by decide +kernel, by decide +kernel, rfl⟩
  have stuck : canSweep (.ofMillis 1000) distantSweep.settings.sweepInterval = false := by
    decide +kernel
  obtain ⟨t, r, reached, ended⟩ := ends_of_not_canSweep started stuck ⟨default, []⟩
  exact ⟨_, t, r, started, stuck, reached, ended⟩

end Listener

end SocketRelay.Udp
