import SocketRelay.Proofs.Log.LineBreaks
import SocketRelay.Proofs.Udp.Moves

/-!
# The lines of a UDP relay

An error of a UDP relay is logged in the step in which it is met. A lookup or a
dial that failed is told with the target in the text of the error as well, so
its line breaks with the target too (`Engine.LogsPlainly.openSession`). As long
as the errors that come from outside take one line each (`Relay.Action.IsPlain`),
the line of an event breaks only where it names the target
(`Relay.breaksWith_of_run?`).
-/

namespace SocketRelay.Udp

open Net Text

/-! ## Errors -/

def Effect.cause? : Effect → Option IoError
  | .failed _ cause => cause.map (·.2)
  | _ => .none

namespace Engine

def TaskInput.cause? : TaskInput → Option IoError
  | .forwarder (.writeFailed cause) | .readFailed cause | .respondFailed cause => some cause
  | .forwarder .writeDeadline => some .writeDeadline
  | _ => none

/-- A task gives up with the error it has met. -/
theorem cause?_stepSession {e : Engine} {now : Instant} {s s' : Session} {isOpen : Bool}
    {input : TaskInput} {effect : Effect}
    (h : e.stepSession now s isOpen input = some (s', effect)) : effect.cause? = input.cause? := by
  cases input with
  | forwarder input =>
    obtain ⟨⟨f, effect'⟩, step, same⟩ := Option.map_eq_some_iff.mp h
    cases same
    cases input with
    | take | written | writeFailed | writeDeadline =>
      simp only [Forwarder.step, Forwarder.step.giveUp] at step
      split at step <;> cases step
      rfl
    | closed =>
      simp only [Forwarder.step] at step
      split at step
      · split at step <;> cases step
        rfl
      · cases step
  | heard | readFailed | responded | respondFailed =>
    obtain ⟨⟨r, effect'⟩, step, same⟩ := Option.map_eq_some_iff.mp h
    cases same
    simp only [Replier.step] at step
    split at step <;> cases step
    rfl
  | readDeadline =>
    obtain ⟨⟨r, effect'⟩, step, same⟩ := Option.map_eq_some_iff.mp h
    cases same
    simp only [Replier.step] at step
    split at step
    · split at step <;> cases step <;> rfl
    · cases step
  | shutdown =>
    simp only [stepSession, stepSession.replier] at h
    split at h
    · cases h
    · obtain ⟨⟨r, effect'⟩, step, same⟩ := Option.map_eq_some_iff.mp h
      cases same
      simp only [Replier.step] at step
      split at step <;> cases step
      rfl

end Engine

structure Opening.IsPlain (o : Opening) : Prop where
  lookup : ∀ cause, o.lookup = .error cause → cause.IsPlain
  dial : ∀ cause, o.dial = .error cause → cause.IsPlain

/-- The text of an error takes one line, or as many as the target. -/
def Error.IsPlainFor (target : String) (error : Error) : Prop :=
  hasLineBreak error.message = false ∨ hasLineBreak error.message = hasLineBreak target

namespace Error.IsPlainFor

variable {target : String} {cause : IoError}

theorem resolve (plain : cause.IsPlain) : IsPlainFor target (.resolve target cause) := by
  have single : hasLineBreak (toString cause) = false := plain
  refine .inr ?_
  unfold message
  simp only [hasLineBreak_append, hasLineBreak_toString, single, Bool.or_false]
  cases hasLineBreak target <;> decide +kernel

theorem noAddress (target : String) : IsPlainFor target (.noAddress target) := by
  refine .inr ?_
  unfold message
  simp only [hasLineBreak_append, hasLineBreak_toString]
  cases hasLineBreak target <;> decide +kernel

theorem dial (plain : cause.IsPlain) : IsPlainFor target (.dial target cause) := by
  have single : hasLineBreak (toString cause) = false := plain
  refine .inr ?_
  unfold message
  simp only [hasLineBreak_append, hasLineBreak_toString, single, Bool.or_false]
  cases hasLineBreak target <;> decide +kernel

end Error.IsPlainFor

/-! ## The manager and the tasks -/

namespace Engine

variable {target : String} {e e' : Engine} {now : Instant}

/-- The lines that an engine has logged break with the target. -/
structure LogsPlainly (target : String) (e : Engine) : Prop where
  aim : e.target = target
  lines : ∀ event ∈ e.log, event.BreaksWith target

theorem isPlainFor_of_resolve {lookup : Except IoError (List Endpoint)}
    (plain : ∀ cause, lookup = .error cause → cause.IsPlain) {error : Error}
    (failed : e.resolve lookup = .error error) : error.IsPlainFor e.target := by
  unfold resolve at failed
  split at failed
  · cases failed
  · split at failed
    · next cause => cases failed; exact .resolve (plain cause rfl)
    · cases failed; exact .noAddress e.target
    · cases failed

theorem breaksWith_openFailure (client : Endpoint) {error : Error}
    (plain : error.IsPlainFor e.target) : (e.openFailure client error).BreaksWith e.target := by
  unfold openFailure
  split
  · exact .named rfl rfl (List.forall_mem_singleton.mpr plain)
  · exact .named rfl rfl (List.forall_mem_singleton.mpr plain)
  · exact .named rfl rfl (List.forall_mem_singleton.mpr plain)

namespace LogsPlainly

theorem of_same (h : LogsPlainly target e) (aim : e'.target = e.target) (log : e'.log = e.log) :
    LogsPlainly target e' :=
  ⟨aim.trans h.aim, log ▸ h.lines⟩

theorem record (h : LogsPlainly target e) {event : Event} (breaks : event.BreaksWith target) :
    LogsPlainly target (e.record event) :=
  ⟨h.aim, List.forall_mem_append.mpr ⟨h.lines, List.forall_mem_singleton.mpr breaks⟩⟩

theorem refuse (h : LogsPlainly target e) (d : Datagram) {error : Error}
    (plain : error.IsPlainFor target) : LogsPlainly target (e.refuse now d error) := by
  obtain rfl := h.aim
  have noted : LogsPlainly e.target
      { e with
        handled := e.handled ++ [(now, d)]
        refused := e.refused ++ [d]
        stats.dialFailures := e.stats.dialFailures + 1 } := h.of_same rfl rfl
  exact noted.record (breaksWith_openFailure d.source plain)

theorem enqueue (h : LogsPlainly target e) (s : Session) (key : String) (d : Datagram) :
    LogsPlainly target (e.enqueue now s key d) := by
  refine ⟨(enqueue_frame (·.target) (by intros; rfl) key).trans h.aim, ?_⟩
  rw [log_enqueue]
  refine List.forall_mem_append.mpr ⟨h.lines, ?_⟩
  split
  · exact fun _ mem => absurd mem List.not_mem_nil
  · exact List.forall_mem_singleton.mpr (.other rfl nofun)

theorem evict (h : LogsPlainly target e) (key : String) (reason : EvictionReason) :
    LogsPlainly target (e.evict key reason) := by
  unfold Engine.evict
  split
  · exact h
  · next s _ =>
    have removed : LogsPlainly target
        { e with
          table := e.table.filter (·.1 ≠ key)
          removed := e.removed ++ [s]
          stats.evicted := e.stats.evicted + 1 } := h.of_same rfl rfl
    exact removed.record (.other rfl nofun)

theorem create (h : LogsPlainly target e) (client remote : Endpoint) :
    LogsPlainly target (e.create now client remote) := by
  refine ⟨h.aim, List.forall_mem_append.mpr ⟨h.lines, ?_⟩⟩
  exact List.forall_mem_singleton.mpr (.other rfl nofun)

theorem deliver (h : LogsPlainly target e) (d : Datagram) :
    LogsPlainly target (e.deliver now d) := by
  unfold Engine.deliver
  split
  · exact h.enqueue ..
  · exact h

/-- A session is opened, or the error is one that names the target. -/
theorem openSession (h : LogsPlainly target e) {o : Opening} (plain : o.IsPlain)
    (client : Endpoint) :
    LogsPlainly target (e.openSession now o client).2 ∧
      ∀ error, (e.openSession now o client).1 = .error error → error.IsPlainFor target := by
  obtain rfl := h.aim
  unfold Engine.openSession
  split
  · next error failed =>
    refine ⟨h, fun _ same => ?_⟩
    cases same
    exact isPlainFor_of_resolve plain.lookup failed
  · next remote _ =>
    have known : LogsPlainly e.target { e with resolved := some remote } := h.of_same rfl rfl
    split
    · next cause failed =>
      refine ⟨known, fun _ same => ?_⟩
      cases same
      exact .dial (plain.dial cause failed)
    · dsimp only
      split
      · exact ⟨known.create .., nofun⟩
      · exact ⟨known.of_same rfl rfl, nofun⟩

theorem handleDatagram (h : LogsPlainly target e) {o : Opening} (plain : o.IsPlain)
    (d : Datagram) : LogsPlainly target (e.handleDatagram now o d) := by
  unfold Engine.handleDatagram
  have opened : LogsPlainly target (e.openSession now o d.source).2 ∧ _ :=
    h.openSession plain d.source
  split
  · exact h.deliver d
  · split
    · next e' eq =>
      rw [eq] at opened
      exact opened.1.deliver d
    · next error e' eq =>
      rw [eq] at opened
      exact opened.1.refuse d (opened.2 error rfl)

theorem sweep (h : LogsPlainly target e) (order : List String) :
    LogsPlainly target (e.sweep now order) := by
  unfold Engine.sweep
  generalize e.idleKeys now order = keys
  induction keys generalizing e with
  | nil => exact h
  | cons key keys ih => exact ih (h.evict key .idle)

theorem handleReport (h : LogsPlainly target e) (r : Report) :
    LogsPlainly target (e.handleReport r) := by
  unfold Engine.handleReport
  split
  · split
    · exact h.evict ..
    · exact h
  · exact h

theorem apply (h : LogsPlainly target e) (s : Session) {effect : Effect}
    (plain : ∀ cause ∈ effect.cause?, cause.IsPlain) :
    LogsPlainly target (e.apply now s effect) := by
  refine ⟨(apply_frame (·.target) (by intros; rfl)).trans h.aim, ?_⟩
  cases effect with
  | none | forwarded | replied => exact h.lines
  | failed reason cause =>
    rw [Engine.apply, fail_eq]
    refine List.forall_mem_append.mpr ⟨List.forall_mem_append.mpr ⟨h.lines, ?_⟩, ?_⟩
    · cases cause with
      | none => exact fun _ mem => absurd mem List.not_mem_nil
      | some failure =>
        have single := plain failure.2 rfl
        exact List.forall_mem_singleton.mpr (.other rfl (List.forall_mem_singleton.mpr single))
    · split
      · exact List.forall_mem_singleton.mpr
          (.other rfl fun _ mem => absurd mem List.not_mem_nil)
      · exact fun _ mem => absurd mem List.not_mem_nil

theorem stepTask (h : LogsPlainly target e) {place : Place} {input : TaskInput}
    (plain : ∀ cause ∈ input.cause?, cause.IsPlain)
    (step : e.stepTask now place input = some e') : LogsPlainly target e' := by
  obtain ⟨key, s, s', effect, -, session, rfl⟩ | ⟨index, s, s', effect, -, session, rfl⟩ :=
    stepTask_cases step
  · have updated : LogsPlainly target (e.update key fun _ => s') := h.of_same rfl rfl
    exact updated.apply s (cause?_stepSession session ▸ plain)
  · have updated : LogsPlainly target { e with removed := e.removed.set index s' } :=
      h.of_same rfl rfl
    exact updated.apply s (cause?_stepSession session ▸ plain)

end LogsPlainly

def Action.IsPlain : Action → Prop
  | .task _ input => ∀ cause ∈ input.cause?, cause.IsPlain
  | .sweep _ | .report | .query => True

theorem LogsPlainly.act (h : LogsPlainly target e) {a : Action} (plain : a.IsPlain)
    (act : e.act now a = some e') : LogsPlainly target e' := by
  cases a with
  | sweep order =>
    simp only [Engine.act] at act
    split at act
    · cases act; exact h.sweep order
    · cases act
  | report =>
    simp only [Engine.act] at act
    split at act
    · obtain ⟨⟨r, reports⟩, -, rfl⟩ := Option.map_eq_some_iff.mp act
      have taken : LogsPlainly target { e with reports } := h.of_same rfl rfl
      exact taken.handleReport r
    · cases act
  | query =>
    simp only [Engine.act] at act
    split at act
    · cases act; exact h
    · cases act
  | task place input => exact h.stepTask plain act

end Engine

/-! ## Relays -/

theorem Listener.breaksWith_started (l : Listener) : l.started.BreaksWith l.target :=
  .bare rfl rfl

namespace Relay

open Engine

variable {target : String} {r r' : Relay} {now t t' : Instant}

def Action.IsPlain : Action → Prop
  | .readFailed cause => cause.IsPlain
  | .finish o => o.IsPlain
  | .engine a => a.IsPlain
  | .receive _ | .handOver | .take => True

theorem logsPlainly_handOn (h : r.engine.LogsPlainly target) (d : Datagram) :
    (r.handOn d).engine.LogsPlainly target := by
  unfold handOn
  split
  · exact h
  · exact h
  · dsimp only
    split
    · exact h
    · have counted : LogsPlainly target
          { r.engine with stats.stalls := r.engine.stats.stalls + 1 } := h.of_same rfl rfl
      exact counted.record (.other rfl nofun)

theorem logsPlainly_act (h : r.engine.LogsPlainly target) {a : Action} (plain : a.IsPlain)
    (act : r.act now a = some r') : r'.engine.LogsPlainly target := by
  cases a with
  | receive d =>
    simp only [Relay.act] at act
    split at act
    · cases act
      have counted : (r.note (d.truncate r.engine.settings.maxDatagramSize)).engine.LogsPlainly
          target := h.of_same rfl rfl
      exact logsPlainly_handOn counted _
    · cases act
  | readFailed cause =>
    simp only [Relay.act] at act
    split at act
    · cases act
      have counted : LogsPlainly target
          { r.engine with stats.readErrors := r.engine.stats.readErrors + 1 } := h.of_same rfl rfl
      exact counted.record (.other rfl (List.forall_mem_singleton.mpr plain))
    · cases act
  | handOver =>
    simp only [Relay.act] at act
    split at act
    · cases act
    · split at act
      · cases act; exact h
      · cases act; exact h
      · cases act
  | take =>
    obtain ⟨-, d, ingest, -, rfl⟩ := act_take_eq_some act
    exact h
  | finish o =>
    obtain ⟨-, d, -, rfl⟩ := act_finish_eq_some act
    rw [engine_follow]
    exact h.handleDatagram plain d
  | engine a =>
    obtain ⟨e', -, step, rfl⟩ := act_engine_eq_some act
    exact h.act plain step

theorem logsPlainly_run? (h : r.engine.LogsPlainly target) {actions : List (Instant × Action)}
    (plain : ∀ a ∈ actions, a.2.IsPlain) (run : r.run? t actions = some (t', r')) :
    r'.engine.LogsPlainly target := by
  induction actions generalizing r t with
  | nil => cases run; exact h
  | cons a rest ih =>
    obtain ⟨now, a⟩ := a
    obtain ⟨plain, plain'⟩ := List.forall_mem_cons.mp plain
    simp only [Relay.run?] at run
    split at run
    · obtain ⟨next, act, run⟩ := Option.bind_eq_some_iff.mp run
      exact ih (logsPlainly_act h plain act) plain' run
    · cases run

/-- Every event that a relay logs breaks with its target. -/
theorem breaksWith_of_run? {l : Listener} {cores : UInt64} {memory : Nat} {began : Instant}
    {start : Relay} (started : l.start? cores memory began = some start)
    {actions : List (Instant × Action)} (plain : ∀ a ∈ actions, a.2.IsPlain)
    (run : start.run? began actions = some (t, r)) :
    ∀ event ∈ r.engine.log, event.BreaksWith l.target := by
  refine (logsPlainly_run? ?_ plain run).lines
  rw [Listener.engine_of_start? started]
  have silent : (Engine.start l.target l.settings began).LogsPlainly l.target :=
    ⟨rfl, fun _ mem => absurd mem List.not_mem_nil⟩
  exact silent.record l.breaksWith_started

end Relay

end SocketRelay.Udp
