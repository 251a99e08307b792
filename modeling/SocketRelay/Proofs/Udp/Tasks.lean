import SocketRelay.Udp.Engine

/-!
# What a task of a session does to the rest

A step of a task changes its own half of the session (`stepSession_cases`) and
leaves alone whatever does not read counters of traffic, the log or the reports
(`apply_frame`). A task that gives up makes one report, whatever becomes of it
(`fail_eq`).
-/

namespace SocketRelay.Udp

theorem Reporter.fail_eq (r : Reporter) (reason : FailureReason) (reports : Channel Report) :
    r.fail reason reports =
      ((reports.offer (r.report reason)).1,
        if (reports.offer (r.report reason)).2 = .full then some (.eventQueueFull r.client reason)
        else none) := rfl

/-- A replier that has ended does nothing any more. -/
theorem Replier.step_eq_none {r : Replier} (ended : r.isAlive = false) (bufferSize : UInt64)
    (idleTimeout : Duration) (input : ReplierInput) :
    r.step bufferSize idleTimeout input = none := by
  unfold isAlive at ended
  cases phase : r.phase with
  | waiting | responding _ => rw [phase] at ended; cases ended
  | stopped | failed _ => cases input <;> simp only [step, phase]

theorem Replier.isAlive_of_step {r r' : Replier} {bufferSize : UInt64} {idleTimeout : Duration}
    {input : ReplierInput} {effect : Effect}
    (h : r.step bufferSize idleTimeout input = some (r', effect)) : r.isAlive = true := by
  cases alive : r.isAlive with
  | true => rfl
  | false => rw [step_eq_none alive] at h; cases h

/-- A replier that goes on or is stopped has at most answered. One that fails was alive, and gives
up because of its remote or its client only if that was silent for too long. -/
theorem Replier.step_cases {r r' : Replier} {bufferSize : UInt64} {idleTimeout : Duration}
    {input : ReplierInput} {effect : Effect}
    (h : r.step bufferSize idleTimeout input = some (r', effect)) :
    ((∀ reason, r'.phase ≠ .failed reason) ∧ (effect = .none ∨ ∃ p, effect = .replied p)) ∨
    (∃ reason cause, effect = .failed reason cause ∧ r'.phase = .failed reason ∧
      (reason = .read ∨ reason = .respond ∨
        reason = .remoteIdle ∧ ∃ idle, input = .readDeadline idle ∧ ¬ idle < idleTimeout)) := by
  cases input with
  | heard p =>
    simp only [step] at h
    split at h
    · cases h; exact .inl ⟨fun _ failed => (by cases failed), .inl rfl⟩
    · cases h
  | readFailed cause =>
    simp only [step] at h
    split at h
    · cases h; exact .inr ⟨_, _, rfl, rfl, .inl rfl⟩
    · cases h
  | readDeadline idle =>
    simp only [step] at h
    split at h
    · next waiting =>
      split at h
      · cases h
        exact .inl ⟨fun _ failed => (by rw [waiting] at failed; cases failed), .inl rfl⟩
      · next silent => cases h; exact .inr ⟨_, _, rfl, rfl, .inr (.inr ⟨rfl, _, rfl, silent⟩)⟩
    · cases h
  | responded =>
    simp only [step] at h
    split at h
    · cases h; exact .inl ⟨fun _ failed => (by cases failed), .inr ⟨_, rfl⟩⟩
    · cases h
  | respondFailed cause =>
    simp only [step] at h
    split at h
    · cases h; exact .inr ⟨_, _, rfl, rfl, .inr (.inl rfl)⟩
    · cases h
  | shutdown =>
    simp only [step] at h
    split at h
    · cases h; exact .inl ⟨fun _ failed => (by cases failed), .inl rfl⟩
    · cases h

theorem Replier.step_ne_forwarded {r r' : Replier} {bufferSize : UInt64} {idleTimeout : Duration}
    {input : ReplierInput} {effect : Effect}
    (h : r.step bufferSize idleTimeout input = some (r', effect)) : effect ≠ .forwarded := by
  rintro rfl
  obtain ⟨-, none | ⟨p, replied⟩⟩ | ⟨reason, cause, failed, -⟩ := step_cases h
  · cases none
  · cases replied
  · cases failed

namespace Engine

variable {e : Engine} {now : Instant} {s s' : Session} {effect : Effect}

theorem fail_eq (e : Engine) (now : Instant) (s : Session) (reason : FailureReason)
    (cause : Option (SessionOp × Net.IoError)) :
    e.fail now s reason cause =
      { e with
        stats.overflows :=
          if (e.reports.offer (s.reporter.report reason)).2 = .full then e.stats.overflows + 1
          else e.stats.overflows
        log := e.log ++
          (cause.map fun (op, c) => Event.sessionIoFailed s.client op c.message).toList ++
          if (e.reports.offer (s.reporter.report reason)).2 = .full then
            [.eventQueueFull s.client reason] else []
        reports := (e.reports.offer (s.reporter.report reason)).1
        raised := e.raised ++ [⟨now, s.reporter.report reason,
          (e.reports.offer (s.reporter.report reason)).2⟩] } := by
  by_cases full : (e.reports.offer (s.reporter.report reason)).2 = .full <;> cases cause <;>
    simp [fail, Reporter.fail_eq, record, full] <;> rfl

theorem apply_forwarded (e : Engine) (now : Instant) (s : Session) (effect : Effect) :
    (e.apply now s effect).stats.forwarded =
      e.stats.forwarded + UInt64.ofNat (if effect = .forwarded then 1 else 0) := by
  cases effect with
  | none => exact (UInt64.add_zero _).symm
  | forwarded => rfl
  | replied p => exact (UInt64.add_zero _).symm
  | failed reason cause => rw [apply, fail_eq]; exact (UInt64.add_zero _).symm

/-- A task makes a report when it gives up, and none otherwise. -/
theorem apply_raised (e : Engine) (now : Instant) (s : Session) (effect : Effect) :
    (∃ reason cause fate, effect = .failed reason cause ∧ (e.apply now s effect).raised =
      e.raised ++ [⟨now, s.reporter.report reason, fate⟩]) ∨
    ((∀ reason cause, effect ≠ .failed reason cause) ∧
      (e.apply now s effect).raised = e.raised) := by
  cases effect with
  | none => exact .inr ⟨fun _ _ failed => (by cases failed), rfl⟩
  | forwarded => exact .inr ⟨fun _ _ failed => (by cases failed), rfl⟩
  | replied p => exact .inr ⟨fun _ _ failed => (by cases failed), rfl⟩
  | failed reason cause => exact .inl ⟨reason, cause, _, rfl, by rw [apply, fail_eq]⟩

theorem raised_isPrefix_apply (e : Engine) (now : Instant) (s : Session) (effect : Effect) :
    e.raised <+: (e.apply now s effect).raised := by
  obtain ⟨reason, cause, fate, -, raised⟩ | ⟨-, raised⟩ := apply_raised e now s effect
  · rw [raised]; exact List.prefix_append ..
  · exact ⟨[], by rw [raised, List.append_nil]⟩

/-- What an effect leaves alone. -/
theorem apply_frame {α : Type} (f : Engine → α)
    (unread : ∀ (e : Engine) (forwarded replied overflows : UInt64) (log : List Event)
      (delivered : List Delivery) (reports : Channel Report) (raised : List Raised),
      f { e with
          stats := { e.stats with forwarded, replied, overflows }
          log, delivered, reports, raised } = f e) :
    f (e.apply now s effect) = f e := by
  cases effect with
  | none => rfl
  | forwarded => exact unread e ..
  | replied p => exact unread e ..
  | failed reason cause => rw [apply, fail_eq]; exact unread e ..

/-- A task that gives up logs the error of its socket, and its report if that is lost. -/
theorem filterMap_log_fail {α : Type} {f : Event → Option α}
    (io : ∀ client op error, f (.sessionIoFailed client op error) = none) (e : Engine)
    (now : Instant) (s : Session) (reason : FailureReason)
    (cause : Option (SessionOp × Net.IoError)) :
    (e.fail now s reason cause).log.filterMap f = e.log.filterMap f ++
      if (e.reports.offer (s.reporter.report reason)).2 = .full then
        (f (.eventQueueFull s.client reason)).toList else [] := by
  rw [fail_eq]
  dsimp only
  rw [List.filterMap_append, List.filterMap_append]
  congr 1
  · cases cause <;> simp [io]
  · split
    · cases lost : f (.eventQueueFull s.client reason) <;> simp [lost]
    · rfl

theorem filterMap_log_apply {α : Type} {f : Event → Option α}
    (io : ∀ client op error, f (.sessionIoFailed client op error) = none)
    (full : ∀ client reason, f (.eventQueueFull client reason) = none) (e : Engine)
    (now : Instant) (s : Session) (effect : Effect) :
    (e.apply now s effect).log.filterMap f = e.log.filterMap f := by
  cases effect with
  | none | forwarded | replied => rfl
  | failed reason cause =>
    rw [apply, filterMap_log_fail io, full, Option.toList_none, ite_self, List.append_nil]

/-- A step of a session's task is a step of its forwarder or of its replier, which is told how
long the client has been silent. -/
theorem stepSession_cases {isOpen : Bool} {input : TaskInput}
    (h : e.stepSession now s isOpen input = some (s', effect)) :
    (∃ i f, s.forwarder.step isOpen i = some (f, effect) ∧ s' = { s with forwarder := f }) ∨
    (∃ i r, s.replier.step e.settings.maxDatagramSize e.settings.idleTimeout i = some (r, effect) ∧
      (∀ idle, i = .readDeadline idle → idle = s.clock.idle now) ∧
      s' = { s with replier := r }) := by
  cases input with
  | forwarder i =>
    obtain ⟨⟨f, effect'⟩, step, same⟩ := Option.map_eq_some_iff.mp h
    cases same
    exact .inl ⟨i, f, step, rfl⟩
  | shutdown =>
    simp only [stepSession, stepSession.replier] at h
    split at h
    · cases h
    · obtain ⟨⟨r, effect'⟩, step, same⟩ := Option.map_eq_some_iff.mp h
      cases same
      exact .inr ⟨_, r, step, fun _ eq => (by cases eq), rfl⟩
  | readDeadline =>
    obtain ⟨⟨r, effect'⟩, step, same⟩ := Option.map_eq_some_iff.mp h
    cases same
    exact .inr ⟨_, r, step, fun _ eq => (by cases eq; rfl), rfl⟩
  | heard | readFailed | responded | respondFailed =>
    obtain ⟨⟨r, effect'⟩, step, same⟩ := Option.map_eq_some_iff.mp h
    cases same
    exact .inr ⟨_, r, step, fun _ eq => (by cases eq), rfl⟩

/-- A step of a task does not change what the session is. -/
theorem stepSession_identity {isOpen : Bool} {input : TaskInput}
    (h : e.stepSession now s isOpen input = some (s', effect)) :
    s'.id = s.id ∧ s'.client = s.client ∧ s'.clock = s.clock := by
  obtain ⟨-, f, -, rfl⟩ | ⟨-, r, -, -, rfl⟩ := stepSession_cases h
  · exact ⟨rfl, rfl, rfl⟩
  · exact ⟨rfl, rfl, rfl⟩

end Engine

end SocketRelay.Udp
