import SocketRelay.Proofs.Log.LineBreaks
import SocketRelay.Proofs.Tcp.Moves

/-!
# The lines of a TCP relay

An error that a relay meets may wait in a worker, in the ends of a connection or
in a copy before it is logged. As long as the errors that come from outside take
one line each (`Relay.Action.IsPlain`), all that wait do too, and the line of an
event breaks only where it names the target (`Relay.breaksWith_of_run?`).
-/

namespace SocketRelay.Tcp

open Net Text

/-! ## Streams and copies -/

theorem isPlain_writeZero : IoError.writeZero.IsPlain := by unfold IoError.IsPlain; decide +kernel

def Source.IsPlain (s : Source) : Prop := ∀ cause ∈ s.failure, cause.IsPlain

def Sink.IsPlain (s : Sink) : Prop := ∀ cause, .failed cause ∈ s.answers → cause.IsPlain

structure Ends.IsPlain (e : Ends) : Prop where
  clientSource : e.clientSource.IsPlain
  clientAnswers : ∀ cause, .failed cause ∈ e.clientAnswers → cause.IsPlain
  remoteSource : e.remoteSource.IsPlain
  remoteAnswers : ∀ cause, .failed cause ∈ e.remoteAnswers → cause.IsPlain

theorem Source.IsPlain.read {s : Source} (plain : s.IsPlain) (size : Nat) :
    (s.read size).2.IsPlain ∧ ∀ cause, (s.read size).1 = .failed cause → cause.IsPlain := by
  unfold Source.read
  split
  · split
    · next none => exact ⟨plain, nofun⟩
    · next cause failing =>
      refine ⟨plain, fun _ failed => ?_⟩
      cases failed
      exact plain cause failing
  · exact ⟨plain, nofun⟩

theorem Sink.IsPlain.write {s : Sink} (plain : s.IsPlain) (bs : Bytes) :
    (s.write bs).2.IsPlain ∧ ∀ cause, (s.write bs).1 = .error cause → cause.IsPlain := by
  have rest {answer : WriteAnswer} {rest : List WriteAnswer} (answers : s.answers = answer :: rest)
      (cause : IoError) (mem : .failed cause ∈ rest) : cause.IsPlain :=
    plain cause (answers ▸ List.mem_cons_of_mem _ mem)
  have zero (cause : IoError)
      (failed : Except.error (α := Bytes) IoError.writeZero = .error cause) :
      cause.IsPlain := by
    cases failed
    exact isPlain_writeZero
  unfold Sink.write
  dsimp only
  split
  · split
    · exact ⟨fun _ mem => absurd mem List.not_mem_nil, zero⟩
    · exact ⟨fun _ mem => absurd mem List.not_mem_nil, nofun⟩
  · next answers =>
    split
    · exact ⟨rest answers, zero⟩
    · exact ⟨rest answers, nofun⟩
  · next cause _ answers =>
    refine ⟨rest answers, fun _ failed => ?_⟩
    cases failed
    exact plain cause (answers ▸ List.mem_cons_self)

theorem Copy.eq_failed_of_onRead {c : Copy} {result : ReadResult} {cause : IoError}
    (failed : (c.onRead result).failure = some cause) : result = .failed cause := by
  cases result with
  | bytes | ended => cases failed
  | failed => cases failed; rfl

theorem Copy.eq_error_of_onWrite {c : Copy} {size : Nat} {result : Except IoError Bytes}
    {cause : IoError} (failed : (c.onWrite size result).failure = some cause) :
    result = .error cause := by
  cases result with
  | ok left => cases left <;> cases failed
  | error => cases failed; rfl

/-- The errors that a transfer has met or will meet take one line each. -/
structure Transfer.IsPlain (t : Transfer) : Prop where
  failure : ∀ cause ∈ t.copy.failure, cause.IsPlain
  source : t.source.IsPlain
  sink : t.sink.IsPlain

def CopyInput.IsPlain : CopyInput → Prop
  | .call => True
  | .lost cause => cause.IsPlain

namespace Transfer.IsPlain

variable {t t' : Transfer}

theorem start (bufferSize : UInt64) {source : Source} {sink : Sink} (plain : source.IsPlain)
    (plain' : sink.IsPlain) : (Transfer.start bufferSize source sink).IsPlain :=
  ⟨nofun, plain, plain'⟩

theorem step (plain : t.IsPlain) (h : t.step = some t') : t'.IsPlain := by
  unfold Transfer.step at h
  split at h
  · cases h
    have read := plain.source.read t.copy.bufferSize
    exact ⟨fun _ failed => read.2 _ (Copy.eq_failed_of_onRead failed), read.1, plain.sink⟩
  · next left size _ =>
    cases h
    have written := plain.sink.write left
    exact ⟨fun _ failed => written.2 _ (Copy.eq_error_of_onWrite failed), plain.source, written.1⟩
  · next failure ending =>
    cases h
    refine ⟨fun cause failed => plain.failure cause ?_, plain.source, plain.sink⟩
    rw [Copy.failure, ending]
    exact failed
  · cases h

theorem move (plain : t.IsPlain) {input : CopyInput} (plain' : input.IsPlain)
    (h : t.move input = some t') : t'.IsPlain := by
  cases input with
  | call => exact plain.step h
  | lost cause =>
    simp only [Transfer.move, lose] at h
    split at h
    · cases h
    · cases h
      refine ⟨fun _ failed => ?_, plain.source, plain.sink⟩
      cases failed
      exact plain'

end Transfer.IsPlain

/-! ## Connections -/

structure Connection.IsPlain (c : Connection) : Prop where
  up : c.up.IsPlain
  down : c.down.IsPlain

namespace Connection.IsPlain

variable {c c' : Connection}

theorem start (bufferSize : UInt64) {e : Ends} (plain : e.IsPlain) :
    (Connection.start bufferSize e).IsPlain :=
  ⟨.start bufferSize plain.clientSource plain.remoteAnswers,
    .start bufferSize plain.remoteSource plain.clientAnswers⟩

theorem transfer (plain : c.IsPlain) (d : Direction) : (c.transfer d).IsPlain := by
  cases d with
  | up => exact plain.up
  | down => exact plain.down

theorem step (plain : c.IsPlain) {d : Direction} {input : CopyInput} (plain' : input.IsPlain)
    (h : c.step d input = some c') : c'.IsPlain := by
  obtain ⟨t, moved, rfl⟩ := Option.map_eq_some_iff.mp h
  have plain'' := (plain.transfer d).move plain' moved
  cases d with
  | up => exact ⟨plain'', plain.down⟩
  | down => exact ⟨plain.up, plain''⟩

end Connection.IsPlain

def WorkerStage.IsPlain : WorkerStage → Prop
  | .dialing => True
  | .refused cause => cause.IsPlain
  | .connected connection => connection.IsPlain

theorem Pump.breaksWith_of_mem_report {p : Pump} (plain : p.connection.IsPlain) {target : String}
    {d : Direction} {event : Event} (mem : event ∈ p.report target d) :
    event.BreaksWith target := by
  unfold Pump.report at mem
  split at mem
  · next cause failed =>
    cases List.mem_singleton.mp mem
    have single := (plain.transfer d).failure cause failed
    exact .named rfl rfl (List.forall_mem_singleton.mpr (.inl single))
  · cases mem

/-! ## Relays -/

namespace Relay

def Action.IsPlain : Action → Prop
  | .acceptFailed cause | .dialed _ (.error cause) => cause.IsPlain
  | .dialed _ (.ok ends) => ends.IsPlain
  | .copy _ _ input => input.IsPlain
  | .accept _ | .handOff | .announce _ | .settle _ => True

/-- The lines that a relay has logged break with the target, and no error that waits breaks a
line. -/
structure LogsPlainly (target : String) (r : Relay) : Prop where
  aim : r.target = target
  lines : ∀ record ∈ r.log, record.event.BreaksWith target
  workers : ∀ w ∈ r.workers, w.stage.IsPlain
  pumps : ∀ p ∈ r.pumps, p.connection.IsPlain

namespace LogsPlainly

variable {target : String} {r r' : Relay}

theorem start (l : Listener) (cores : UInt64) : LogsPlainly l.target (l.start cores) := by
  refine ⟨rfl, List.forall_mem_singleton.mpr (.bare rfl rfl), fun _ mem => ?_, fun _ mem => ?_⟩
  · cases mem
  · cases mem

theorem record (h : LogsPlainly target r) (client : Option Nat) {event : Event}
    (breaks : event.BreaksWith target) : LogsPlainly target (r.record client event) :=
  ⟨h.aim, List.forall_mem_append.mpr ⟨h.lines, List.forall_mem_singleton.mpr breaks⟩,
    h.workers, h.pumps⟩

theorem tell (h : LogsPlainly target r) (number : Nat) {events : List Event}
    (breaks : ∀ event ∈ events, event.BreaksWith target) :
    LogsPlainly target (r.tell number events) :=
  ⟨h.aim, List.forall_mem_append.mpr ⟨h.lines, List.forall_mem_map.mpr breaks⟩, h.workers,
    h.pumps⟩

theorem endDial (h : LogsPlainly target r) (i : Nat) (w : Worker) {result : Except IoError Ends}
    (plain : (Action.dialed i result).IsPlain) : LogsPlainly target (r.endDial i w result) := by
  cases result with
  | error cause =>
    refine ⟨h.aim, h.lines, fun w' mem => ?_, h.pumps⟩
    rcases List.mem_or_eq_of_mem_set mem with mem | rfl
    · exact h.workers w' mem
    · exact plain
  | ok ends =>
    refine ⟨h.aim, h.lines, fun w' mem => ?_, h.pumps⟩
    rcases List.mem_or_eq_of_mem_set mem with mem | rfl
    · exact h.workers w' mem
    · exact Connection.IsPlain.start _ plain

theorem settles (h : LogsPlainly target r) {p : Pump} (mem : p ∈ r.pumps) {stage : PumpStage}
    (settles : Settles r p stage r') : LogsPlainly target r' := by
  obtain rfl := h.aim
  have plain := h.pumps p mem
  cases settles with
  | ended | countedUp | countedDown | inactive | completed =>
    exact ⟨h.aim, h.lines, h.workers, h.pumps⟩
  | reportedUp | reportedDown =>
    exact h.tell _ fun event mem => Pump.breaksWith_of_mem_report plain mem
  | closed => exact h.tell _ (List.forall_mem_singleton.mpr (.bare rfl rfl))

theorem announce (h : LogsPlainly target r) {i : Nat} (act : r.act (.announce i) = some r') :
    LogsPlainly target r' := by
  simp only [Relay.act] at act
  split at act
  · cases act
  · next w found =>
    obtain rfl := h.aim
    have plain := h.workers w (List.mem_of_getElem? found)
    have free : LogsPlainly r.target { r with workers := r.workers.eraseIdx i } :=
      ⟨h.aim, h.lines, fun w' mem => h.workers w' (List.mem_of_mem_eraseIdx mem), h.pumps⟩
    split at act
    · cases act
    · next cause refused =>
      cases act
      rw [refused] at plain
      exact free.record _ (.named rfl rfl (List.forall_mem_singleton.mpr (.inl plain)))
    · next connection connected =>
      cases act
      rw [connected] at plain
      have pumped : LogsPlainly r.target
          { r with
            workers := r.workers.eraseIdx i
            pumps := r.pumps ++ [⟨w.client, connection, .relaying⟩] } :=
        ⟨h.aim, h.lines, free.workers,
          List.forall_mem_append.mpr ⟨h.pumps, List.forall_mem_singleton.mpr plain⟩⟩
      exact pumped.record _ (.bare rfl rfl)

theorem act (h : LogsPlainly target r) {a : Action} (plain : a.IsPlain)
    (act : r.act a = some r') : LogsPlainly target r' := by
  cases a with
  | accept peer =>
    simp only [Relay.act] at act
    split at act
    · cases act
    · cases act; exact ⟨h.aim, h.lines, h.workers, h.pumps⟩
  | acceptFailed cause =>
    have counted : LogsPlainly target { r with stats.acceptErrors := r.stats.acceptErrors + 1 } :=
      ⟨h.aim, h.lines, h.workers, h.pumps⟩
    simp only [Relay.act] at act
    split at act
    · cases act
    · cases act
      exact counted.record _ (.other rfl (List.forall_mem_singleton.mpr plain))
  | handOff =>
    simp only [Relay.act] at act
    split at act
    · cases act
    · split at act
      · cases act
        exact ⟨h.aim, h.lines,
          List.forall_mem_append.mpr ⟨h.workers, List.forall_mem_singleton.mpr trivial⟩, h.pumps⟩
      · cases act
  | dialed i result =>
    simp only [Relay.act] at act
    split at act
    · cases act
    · split at act
      · cases act; exact h.endDial i _ plain
      · cases act
  | announce i => exact h.announce act
  | copy i d input =>
    simp only [Relay.act] at act
    split at act
    · cases act
    · next p found =>
      obtain ⟨connection, step, rfl⟩ := Option.map_eq_some_iff.mp act
      refine ⟨h.aim, h.lines, h.workers, fun p' mem => ?_⟩
      rcases List.mem_or_eq_of_mem_set mem with mem | rfl
      · exact h.pumps p' mem
      · exact (h.pumps p (List.mem_of_getElem? found)).step plain step
  | settle i =>
    simp only [Relay.act] at act
    split at act
    · cases act
    · next p found =>
      have mem := List.mem_of_getElem? found
      obtain ⟨⟨stage, r''⟩, step, rfl⟩ := Option.map_eq_some_iff.mp act
      have settled := h.settles mem (settlePump_settles step)
      refine ⟨settled.aim, settled.lines, settled.workers, fun p' mem' => ?_⟩
      rcases List.mem_or_eq_of_mem_set mem' with mem' | rfl
      · exact settled.pumps p' mem'
      · exact h.pumps p mem

theorem run? (h : LogsPlainly target r) {actions : List Action}
    (plain : ∀ a ∈ actions, a.IsPlain) (run : r.run? actions = some r') :
    LogsPlainly target r' := by
  induction actions generalizing r with
  | nil => cases run; exact h
  | cons a rest ih =>
    obtain ⟨next, act, run⟩ := Option.bind_eq_some_iff.mp run
    obtain ⟨plain, plain'⟩ := List.forall_mem_cons.mp plain
    exact ih (h.act plain act) plain' run

end LogsPlainly

/-- Every event that a relay logs breaks with its target. -/
theorem breaksWith_of_run? {l : Listener} {cores : UInt64} {r : Relay} {actions : List Action}
    (plain : ∀ a ∈ actions, a.IsPlain) (run : (l.start cores).run? actions = some r) :
    ∀ event ∈ r.events, event.BreaksWith l.target :=
  List.forall_mem_map.mpr ((LogsPlainly.start l cores).run? plain run).lines

end Relay

end SocketRelay.Tcp
