import SocketRelay.Proofs.Udp.Forwarders
import SocketRelay.Proofs.Udp.SessionTable

/-!
# What tasks reported

A session's tasks that gave up made one report each (`Session.reports`). The
reports that were ever made are those of all sessions that were ever opened, and
what waits for the manager is among them. A report that found the channel full
is counted and logged (`Reported`); every move keeps this.
-/

namespace SocketRelay

def Event.overflow? : Event → Option (String × FailureReason)
  | .eventQueueFull client reason => some (client.text, reason)
  | _ => none

namespace Udp

open Net

namespace Replier

variable {r r' : Replier} {bufferSize : UInt64} {idleTimeout : Duration} {input : ReplierInput}
  {effect : Effect}

def failure? (r : Replier) : Option FailureReason :=
  match r.phase with
  | .failed reason => some reason
  | _ => none

theorem failure?_eq_some {reason : FailureReason} :
    r.failure? = some reason ↔ r.phase = .failed reason := by
  unfold failure?
  cases r.phase <;> simp

theorem failure?_of_isAlive (alive : r.isAlive = true) : r.failure? = none := by
  unfold isAlive at alive
  unfold failure?
  cases phase : r.phase with
  | waiting | responding _ | stopped => rfl
  | failed reason => rw [phase] at alive; cases alive

/-- A replier stops only when it is told to. -/
theorem step_phase_ne_stopped (h : r.step bufferSize idleTimeout input = some (r', effect))
    (others : input ≠ .shutdown) : r'.phase ≠ .stopped := by
  cases input with
  | shutdown => exact absurd rfl others
  | readDeadline idle =>
    simp only [step] at h
    split at h
    · next waiting =>
      split at h
      · cases h; rw [waiting]; exact ReplierPhase.noConfusion
      · cases h; exact ReplierPhase.noConfusion
    · cases h
  | heard | readFailed | responded | respondFailed =>
    simp only [step] at h
    split at h
    · cases h; exact ReplierPhase.noConfusion
    · cases h

theorem step_failure (h : r.step bufferSize idleTimeout input = some (r', effect)) :
    r.failure? = none ∧
      ((r'.failure? = none ∧ ∀ reason cause, effect ≠ .failed reason cause) ∨
        ∃ reason cause, effect = .failed reason cause ∧ r'.failure? = some reason) := by
  refine ⟨failure?_of_isAlive (isAlive_of_step h), ?_⟩
  obtain ⟨others, effects⟩ | ⟨reason, cause, failed, phase, -⟩ := step_cases h
  · refine .inl ⟨?_, fun reason cause failed => ?_⟩
    · rw [Option.eq_none_iff_forall_ne_some]
      exact fun reason failed => others reason (failure?_eq_some.mp failed)
    · rcases effects with none | ⟨p, replied⟩
      · rw [none] at failed; cases failed
      · rw [replied] at failed; cases failed
  · exact .inr ⟨reason, cause, failed, failure?_eq_some.mpr phase⟩

end Replier

namespace Session

def reports (s : Session) : List Report :=
  (if s.forwarder.hasFailed then [s.reporter.report .write] else []) ++
    s.replier.failure?.toList.map s.reporter.report

theorem length_reports_le (s : Session) : s.reports.length ≤ 2 := by
  have replier : s.replier.failure?.toList.length ≤ 1 := by
    cases s.replier.failure? <;> simp
  rw [reports, List.length_append, List.length_map]
  split <;> simp only [List.length_singleton, List.length_nil] <;> omega

theorem eq_report_of_mem {s : Session} {x : Report} (h : x ∈ s.reports) :
    x = s.reporter.report x.reason := by
  rcases List.mem_append.mp h with h | h
  · split at h
    · rw [List.mem_singleton.mp h]; rfl
    · cases h
  · obtain ⟨reason, -, rfl⟩ := List.mem_map.mp h
    rfl

theorem id_of_mem {s : Session} {x : Report} (h : x ∈ s.reports) : x.id = s.id := by
  rw [eq_report_of_mem h]; rfl

theorem key_of_mem {s : Session} {x : Report} (h : x ∈ s.reports) : x.key = s.client.text := by
  rw [eq_report_of_mem h]; rfl

theorem report_mem_of_hasFailed {s : Session} (failed : s.forwarder.hasFailed = true) :
    s.reporter.report .write ∈ s.reports := by
  rw [reports, if_pos failed]
  exact List.mem_append_left _ List.mem_cons_self

theorem report_mem_of_failure {s : Session} {reason : FailureReason}
    (failed : s.replier.phase = .failed reason) : s.reporter.report reason ∈ s.reports := by
  rw [reports, Replier.failure?_eq_some.mpr failed]
  exact List.mem_append_right _ List.mem_cons_self

/-- A queue that takes a payload, or does not, belongs to the same forwarder. -/
theorem reports_taken (s : Session) (now : Instant) (p : Payload) :
    (s.taken now p).reports = s.reports := by
  have failed : (s.taken now p).forwarder.hasFailed = s.forwarder.hasFailed := by
    cases room : s.forwarder.offer p with
    | none => simp only [taken, room, Option.getD_none]
    | some f =>
      obtain ⟨-, rfl⟩ := Forwarder.offer_eq_some room
      simp only [taken, room, Option.getD_some, Forwarder.hasFailed]
  rw [reports, failed]
  rfl

end Session

namespace Engine

variable {e e' : Engine} {now : Instant} {s s' : Session} {effect : Effect}

/-- A step of a task adds the report that the task makes, if it makes one. -/
theorem stepSession_reports {isOpen : Bool} {input : TaskInput}
    (h : e.stepSession now s isOpen input = some (s', effect)) :
    (s'.reports = s.reports ∧ ∀ reason cause, effect ≠ .failed reason cause) ∨
    (∃ reason cause, effect = .failed reason cause ∧
      s'.reports.Perm (s.reports ++ [s.reporter.report reason])) := by
  obtain ⟨i, f, moved, rfl⟩ | ⟨i, r, moved, -, rfl⟩ := stepSession_cases h
  · obtain ⟨same, quiet⟩ | ⟨alive, failed, cause, rfl⟩ := Forwarder.step_failed moved
    · exact .inl ⟨by simp only [Session.reports, same]; rfl, quiet⟩
    · refine .inr ⟨.write, cause, rfl, ?_⟩
      simp only [Session.reports, alive, failed, if_true, Bool.false_eq_true, if_false]
      exact List.perm_append_comm
  · obtain ⟨before, ⟨after, quiet⟩ | ⟨reason, cause, rfl, after⟩⟩ := Replier.step_failure moved
    · exact .inl ⟨by simp only [Session.reports, before, after]; rfl, quiet⟩
    · refine .inr ⟨reason, cause, rfl, .of_eq ?_⟩
      simp only [Session.reports, before, after, Option.toList_none, Option.toList_some,
        List.map_nil, List.append_nil, List.map_cons]
      rfl

theorem Replaced.flatMap_eq {α : Type} {before after : List Session}
    (h : Replaced s s' before after) {f : Session → List α} (same : f s' = f s) :
    after.flatMap f = before.flatMap f := by
  rw [List.flatMap_def, List.flatMap_def, h.map_eq same]

theorem Replaced.flatMap_perm {α : Type} [DecidableEq α] {before after : List Session}
    (h : Replaced s s' before after) {f : Session → List α} {more : List α}
    (grown : (f s').Perm (f s ++ more)) :
    (after.flatMap f).Perm (before.flatMap f ++ more) := by
  rw [List.perm_iff_count]
  intro a
  have changed := h.count_flatMap f a
  have counted := grown.count_eq a
  rw [List.count_append] at counted ⊢
  omega

structure Reported (e : Engine) : Prop where
  closed : e.reports.closed = !e.running
  made : (e.raised.map (·.report)).Perm (e.everySession.flatMap Session.reports)
  queued : ∀ x ∈ e.reports.items, ∃ y ∈ e.raised, y.report = x
  refused : e.log.filterMap Event.overflow? =
    (e.raised.filter (·.fate = .full)).map fun y => (y.report.key, y.report.reason)
  counted : e.stats.overflows = UInt64.ofNat (e.log.filterMap Event.overflow?).length

theorem reported_start (target : String) (settings : Settings) (began : Instant) :
    Reported (start target settings began) :=
  ⟨rfl, .refl _, fun _ hx => absurd hx List.not_mem_nil, rfl, rfl⟩

namespace Reported

/-- No task reports anything. -/
theorem of_same (h : Reported e) (closed : e'.reports.closed = !e'.running)
    (every : (e'.everySession.flatMap Session.reports).Perm
      (e.everySession.flatMap Session.reports))
    (items : ∀ x ∈ e'.reports.items, x ∈ e.reports.items) (raised : e'.raised = e.raised)
    (more : List Event) (log : e'.log = e.log ++ more)
    (quiet : more.filterMap Event.overflow? = [])
    (overflows : e'.stats.overflows = e.stats.overflows) : Reported e' := by
  have overflow : e'.log.filterMap Event.overflow? = e.log.filterMap Event.overflow? := by
    rw [log, List.filterMap_append, quiet, List.append_nil]
  refine ⟨closed, ?_, ?_, ?_, ?_⟩
  · rw [raised]; exact h.made.trans every.symm
  · rw [raised]; exact fun x hx => h.queued x (items x hx)
  · rw [overflow, raised]; exact h.refused
  · rw [overflow, overflows]; exact h.counted

theorem record (h : Reported e) {event : Event} (quiet : event.overflow? = none) :
    Reported (e.record event) :=
  h.of_same h.closed (.refl _) (fun _ hx => hx) rfl [event] rfl
    (by simp only [List.filterMap_cons, quiet, List.filterMap_nil]) rfl

theorem refuse (h : Reported e) (now : Instant) (d : Datagram) (error : Error) :
    Reported (e.refuse now d error) := by
  refine h.of_same h.closed (.refl _) (fun _ hx => hx) rfl [e.openFailure d.source error] rfl ?_ rfl
  unfold openFailure
  split <;> rfl

theorem enqueue (h : Reported e) (table : Registered e) {d : Datagram}
    (live : e.session? d.source.text = some s) :
    Reported (e.enqueue now s d.source.text d) := by
  have every := everySession_enqueue now d table.unique live
  have reports : (e.enqueue now s d.source.text d).reports = e.reports :=
    enqueue_frame (·.reports) (by intros; rfl) _
  have running : (e.enqueue now s d.source.text d).running = e.running :=
    enqueue_frame (·.running) (by intros; rfl) _
  have raised : (e.enqueue now s d.source.text d).raised = e.raised :=
    enqueue_frame (·.raised) (by intros; rfl) _
  have overflows : (e.enqueue now s d.source.text d).stats.overflows = e.stats.overflows :=
    enqueue_frame (·.stats.overflows) (by intros; rfl) _
  refine h.of_same ?_ (.of_eq (every.flatMap_eq (s.reports_taken now d.payload))) ?_ raised _
    (log_enqueue _) ?_ overflows
  · rw [reports, running]; exact h.closed
  · rw [reports]; exact fun _ hx => hx
  · split <;> rfl

theorem evict (h : Reported e) (table : Registered e) {key : String}
    (live : e.session? key = some s) (reason : EvictionReason) :
    Reported (e.evict key reason) := by
  have every := everySession_evict table.unique live reason
  rw [evict_eq live] at every ⊢
  exact h.of_same h.closed (every.flatMap_right _) (fun _ hx => hx) rfl
    [.sessionEvicted s.client reason] rfl rfl rfl

/-- A task gives up, after its session was changed. -/
theorem fail (h : Reported e) (s : Session) (reason : FailureReason)
    (cause : Option (SessionOp × IoError)) (now : Instant) {e₁ : Engine}
    (every : (e₁.everySession.flatMap Session.reports).Perm
      (e.everySession.flatMap Session.reports ++ [s.reporter.report reason]))
    (same : e₁ = { e with table := e₁.table, removed := e₁.removed }) :
    Reported (e₁.fail now s reason cause) := by
  have reports : e₁.reports = e.reports := by rw [same]
  have running : e₁.running = e.running := by rw [same]
  have raised : e₁.raised = e.raised := by rw [same]
  have log : e₁.log = e.log := by rw [same]
  have overflows : e₁.stats.overflows = e.stats.overflows := by rw [same]
  have made (fate : Channel.Offered) :
      ((e.raised ++ [Raised.mk now (s.reporter.report reason) fate]).map (·.report)).Perm
        (e₁.everySession.flatMap Session.reports) := by
    rw [List.map_append]
    exact (h.made.append_right _).trans every.symm
  have queued {x : Report} (hx : x ∈ e.reports.items) (fate : Channel.Offered) :
      ∃ y ∈ e.raised ++ [Raised.mk now (s.reporter.report reason) fate], y.report = x := by
    obtain ⟨y, hy, eq⟩ := h.queued x hx
    exact ⟨y, List.mem_append_left _ hy, eq⟩
  have events := filterMap_log_fail (f := Event.overflow?) (fun _ _ _ => rfl) e₁ now s reason cause
  rw [fail_eq, reports, raised, log, overflows] at events
  rw [fail_eq, reports, raised, log, overflows]
  obtain ⟨-, offered⟩ | ⟨-, -, offered⟩ | ⟨-, -, offered⟩ :=
    e.reports.offer_cases (s.reporter.report reason)
  · rw [offered] at events ⊢
    refine ⟨running ▸ h.closed, made _, fun x hx => queued hx _, ?_, ?_⟩
    · rw [events]; simp [h.refused]
    · rw [events]; simp [h.counted]
  · rw [offered] at events ⊢
    refine ⟨running ▸ h.closed, made _, fun x hx => queued hx _, ?_, ?_⟩
    · rw [events, if_pos rfl, h.refused, List.filter_append, List.map_append]
      rfl
    · rw [events, if_pos rfl, List.length_append, UInt64.ofNat_add, ← h.counted]
      rfl
  · rw [offered] at events ⊢
    refine ⟨running ▸ h.closed, made _, fun x hx => ?_, ?_, ?_⟩
    · rcases List.mem_append.mp hx with hx | hx
      · exact queued hx _
      · rw [List.mem_singleton.mp hx]
        exact ⟨_, List.mem_append_right _ List.mem_cons_self, rfl⟩
    · rw [events]; simp [h.refused]
    · rw [events]; simp [h.counted]

/-- A step of a task, in the table or out of it. -/
theorem step (h : Reported e) {isOpen : Bool} {input : TaskInput} {effect : Effect}
    (step : e.stepSession now s isOpen input = some (s', effect)) {e₁ : Engine}
    (every : Replaced s s' e.everySession e₁.everySession)
    (same : e₁ = { e with table := e₁.table, removed := e₁.removed }) :
    Reported (e₁.apply now s effect) := by
  obtain ⟨unchanged, quiet⟩ | ⟨reason, cause, rfl, grown⟩ := stepSession_reports step
  · have kept : Reported e₁ :=
      h.of_same (by rw [same]; exact h.closed) (.of_eq (every.flatMap_eq unchanged))
        (by rw [same]; exact fun _ hx => hx) (by rw [same]) [] (by rw [same, List.append_nil]) rfl
        (by rw [same])
    cases effect with
    | none | forwarded | replied =>
      exact ⟨kept.closed, kept.made, kept.queued, kept.refused, kept.counted⟩
    | failed reason cause => exact absurd rfl (quiet reason cause)
  · exact h.fail s reason cause now (every.flatMap_perm grown) same

theorem move (m : Move now e e') (table : Registered e) (h : Reported e) : Reported e' := by
  cases m with
  | received | resolved =>
    exact ⟨h.closed, h.made, h.queued, h.refused, h.counted⟩
  | readFailed | stalled =>
    refine record (e := { e with stats := _ }) ?_ rfl
    exact ⟨h.closed, h.made, h.queued, h.refused, h.counted⟩
  | refused error absent => exact h.refuse now _ error
  | stopped size =>
    refine h.of_same rfl (.of_eq ?_) (fun _ hx => absurd hx List.not_mem_nil) rfl [] ?_ rfl rfl
    · rw [everySession_stop]
    · exact (List.append_nil _).symm
  | @created client remote absent known size =>
    refine h.of_same h.closed (.of_eq ?_) (fun _ hx => hx) rfl
      [.sessionCreated client (e.lastId + 1) remote] rfl rfl rfl
    rw [everySession_create, List.flatMap_append]
    exact List.append_nil _
  | enqueued live => exact h.enqueue table live
  | swept live idle => exact h.evict table live _
  | @reportTaken r reports next =>
    obtain ⟨items, rest⟩ := Channel.next?_eq_some next
    refine h.of_same ?_ (.refl _) (fun x hx => ?_) rfl [] ?_ rfl rfl
    · rw [rest]; exact h.closed
    · rw [items]; exact List.mem_cons_of_mem _ hx
    · exact (List.append_nil _).symm
  | reported live same => exact h.evict table live _
  | stepped live step =>
    exact h.step step (everySession_update table.unique live _) rfl
  | @drained index s s' input effect gone step =>
    exact h.step step (everySession_set gone s') rfl

end Reported

end Engine

namespace Relay

open Engine

theorem Reachable.reported {l : Listener} {cores : UInt64} {memory : Nat} {began t : Instant}
    {start r : Relay} (started : l.start? cores memory began = some start)
    (reached : Reachable start t r) :
    Registered r.engine ∧ Reported r.engine :=
  reached.registered_keeps (P := fun _ e => Reported e) started (fun _ h => h)
    (fun m table h => h.move m table)
    fun _ => (reported_start l.target l.settings began).record rfl

end Relay

end Udp

end SocketRelay
