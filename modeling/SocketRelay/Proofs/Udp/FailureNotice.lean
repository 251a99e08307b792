import SocketRelay.Proofs.Udp.ReadLoop
import SocketRelay.Proofs.Udp.Reports

/-!
# No session fails in silence

A session stays in the table after one of its tasks gave up. While the manager
runs, either the report of that task is on its way to the manager, or the log
says that the report found the channel full (`Announced`). The manager takes a
report and removes its session in one action, so this holds between actions and
not between moves. With what is known of all reports it says that no session of
the table is dead without notice (`Relay.Reachable.announces`).
-/

namespace SocketRelay.Udp

open Net

namespace Engine

variable {e e' : Engine} {now : Instant} {key : String} {s s' : Session} {effect : Effect}

/-- The session's report is on its way, or it was refused and the log says so. -/
def Knows (e : Engine) (key : String) (s : Session) (reason : FailureReason) : Prop :=
  ⟨key, s.id, reason⟩ ∈ e.reports.items ∨
    (∃ time, Raised.mk time ⟨key, s.id, reason⟩ .full ∈ e.raised) ∧
      .eventQueueFull s.client reason ∈ e.log

theorem Knows.of_more {reason : FailureReason} (h : e.Knows key s reason)
    (items : ∀ x ∈ e.reports.items, x ∈ e'.reports.items) (raised : ∀ x ∈ e.raised, x ∈ e'.raised)
    (log : ∀ x ∈ e.log, x ∈ e'.log) : e'.Knows key s reason := by
  rcases h with queued | ⟨⟨time, refused⟩, logged⟩
  · exact .inl (items _ queued)
  · exact .inr ⟨⟨time, raised _ refused⟩, log _ logged⟩

structure Announced (e : Engine) : Prop where
  working : ∀ p ∈ e.table, p.2.forwarder.phase ≠ .finished ∧ p.2.replier.phase ≠ .stopped
  known : ∀ p ∈ e.table, ∀ x ∈ p.2.reports, e.Knows p.1 p.2 x.reason

/-! ## Tasks -/

/-- What a task does only adds reports and events. -/
theorem apply_adds (e : Engine) (now : Instant) (s : Session) (effect : Effect) :
    e.reports.items <+: (e.apply now s effect).reports.items ∧
      e.raised <+: (e.apply now s effect).raised ∧ e.log <+: (e.apply now s effect).log := by
  cases effect with
  | none | forwarded | replied =>
    exact ⟨List.prefix_refl _, List.prefix_refl _, List.prefix_refl _⟩
  | failed reason cause =>
    rw [apply, fail_eq]
    refine ⟨?_, List.prefix_append .., ⟨_, (List.append_assoc ..).symm⟩⟩
    dsimp only
    obtain ⟨-, offered⟩ | ⟨-, -, offered⟩ | ⟨-, -, offered⟩ :=
      e.reports.offer_cases (s.reporter.report reason)
    · rewrite [offered]; exact List.prefix_refl _
    · rewrite [offered]; exact List.prefix_refl _
    · rw [offered]; exact List.prefix_append ..

/-- As long as the manager is there, a task that gives up leaves word. -/
theorem fail_leaves_word (isOpen : e.reports.closed = false) (now : Instant) (s : Session)
    (reason : FailureReason) (cause : Option (SessionOp × IoError)) :
    (e.fail now s reason cause).Knows s.client.text s reason := by
  rw [fail_eq]
  obtain ⟨closed, -⟩ | ⟨-, -, offered⟩ | ⟨-, -, offered⟩ :=
    e.reports.offer_cases (s.reporter.report reason)
  · rw [isOpen] at closed; cases closed
  · right
    simp only [offered, if_true]
    exact ⟨⟨now, List.mem_append_right _ List.mem_cons_self⟩,
      List.mem_append_right _ List.mem_cons_self⟩
  · left
    simp only [offered]
    exact List.mem_append_right _ List.mem_cons_self

/-- The tasks of a session in the table do not end but by giving up. -/
theorem stepSession_working {input : TaskInput}
    (h : e.stepSession now s true input = some (s', effect))
    (working : s.forwarder.phase ≠ .finished ∧ s.replier.phase ≠ .stopped) :
    s'.forwarder.phase ≠ .finished ∧ s'.replier.phase ≠ .stopped := by
  cases input with
  | forwarder i =>
    obtain ⟨⟨f, effect'⟩, step, same⟩ := Option.map_eq_some_iff.mp h
    cases same
    refine ⟨?_, working.2⟩
    obtain ⟨p, rest, -, -, rfl, -⟩ | ⟨p, -, rfl, -⟩ | ⟨p, cause, -, rfl, -⟩ | ⟨-, -, closed, -⟩ :=
      Forwarder.step_cases step
    · exact ForwarderPhase.noConfusion
    · exact ForwarderPhase.noConfusion
    · exact ForwarderPhase.noConfusion
    · cases closed
  | shutdown => cases h
  | heard | readFailed | readDeadline | responded | respondFailed =>
    obtain ⟨⟨r, effect'⟩, step, same⟩ := Option.map_eq_some_iff.mp h
    cases same
    exact ⟨working.1, Replier.step_phase_ne_stopped step ReplierInput.noConfusion⟩

namespace Announced

theorem of_sub (h : Announced e) (table : ∀ p ∈ e'.table, p ∈ e.table)
    (items : ∀ x ∈ e.reports.items, x ∈ e'.reports.items) (raised : ∀ x ∈ e.raised, x ∈ e'.raised)
    (log : ∀ x ∈ e.log, x ∈ e'.log) : Announced e' :=
  ⟨fun p hp => h.working p (table p hp), fun p hp x hx =>
    (h.known p (table p hp) x hx).of_more items raised log⟩

theorem step (h : Announced e) (table : Registered e) (isOpen : e.reports.closed = false)
    {input : TaskInput} (live : e.session? key = some s)
    (step : e.stepSession now s true input = some (s', effect)) :
    Announced ((e.update key fun _ => s').apply now s effect) := by
  obtain ⟨id, client, -⟩ := stepSession_identity step
  have named := table.text_of_session? live
  have sessions : ((e.update key fun _ => s').apply now s effect).table =
      (e.update key fun _ => s').table := apply_frame (·.table) (by intros; rfl)
  obtain ⟨items, raised, log⟩ := (e.update key fun _ => s').apply_adds now s effect
  have kept {k : String} {x : Session} {reason : FailureReason} (known : e.Knows k x reason) :
      ((e.update key fun _ => s').apply now s effect).Knows k x reason :=
    known.of_more (fun _ hx => items.mem hx) (fun _ hx => raised.mem hx) (fun _ hx => log.mem hx)
  refine ⟨fun p hp => ?_, fun p hp x hx => ?_⟩ <;> rw [sessions] at hp <;>
    rcases mem_table_update table.unique live hp with rfl | ⟨hp, -⟩
  · exact stepSession_working step (h.working _ (mem_table_of_session? live))
  · exact h.working p hp
  · have same {reason : FailureReason} (known : ((e.update key fun _ => s').apply now s
        effect).Knows key s reason) : ((e.update key fun _ => s').apply now s effect).Knows key s'
        reason := by
      unfold Knows at known ⊢
      rw [id, client]
      exact known
    refine same ?_
    obtain ⟨unchanged, -⟩ | ⟨reason, cause, rfl, grown⟩ := stepSession_reports step
    · exact kept (h.known _ (mem_table_of_session? live) x (unchanged ▸ hx))
    · rcases List.mem_append.mp (grown.subset hx) with hx | hx
      · exact kept (h.known _ (mem_table_of_session? live) x hx)
      · rw [List.mem_singleton.mp hx, ← named]
        exact fail_leaves_word (e := e.update _ _) isOpen now s reason cause
  · exact kept (h.known p hp x hx)

/-! ## The manager -/

theorem evict (h : Announced e) (key : String) (reason : EvictionReason) :
    Announced (e.evict key reason) := by
  unfold Engine.evict
  split
  · exact h
  · exact h.of_sub (fun _ hp => List.mem_of_mem_filter hp) (fun _ hx => hx) (fun _ hx => hx)
      (fun _ hx => List.mem_append_left _ hx)

theorem sweep (h : Announced e) (now : Instant) (order : List String) :
    Announced (e.sweep now order) := by
  unfold Engine.sweep
  generalize e.idleKeys now order = keys
  induction keys generalizing e with
  | nil => exact h
  | cons key keys ih => exact ih (h.evict key .idle)

/-- A report that leaves the channel removes the session that it is about, so no session loses
its word. -/
theorem takeReport (h : Announced e) (table : Registered e) {r : Report}
    {reports : Channel Report} (next : e.reports.next? = some (r, reports)) :
    Announced ({ e with reports }.handleReport r) := by
  obtain ⟨items, -⟩ := Channel.next?_eq_some next
  have others : ∀ p ∈ e.table, (p.1 = r.key → p.2.id ≠ r.id) → ∀ x ∈ p.2.reports,
      ({ e with reports } : Engine).Knows p.1 p.2 x.reason := by
    intro p hp other x hx
    rcases h.known p hp x hx with queued | logged
    · rw [items] at queued
      rcases List.mem_cons.mp queued with rfl | queued
      · exact absurd rfl (other rfl)
      · exact .inl queued
    · exact .inr logged
  unfold handleReport
  split
  · next s live =>
    have live : e.session? r.key = some s := live
    have only {p : String × Session} (hp : p ∈ e.table) (here : p.1 = r.key) : p.2 = s := by
      obtain ⟨k, s'⟩ := p
      cases here
      exact Option.some.inj ((session?_of_mem_table table.unique hp).symm.trans live)
    split
    · refine ⟨fun p hp => ?_, fun p hp x hx => ?_⟩
      all_goals
        rw [evict_eq (e := { e with reports }) live] at hp
        obtain ⟨hp, elsewhere⟩ := List.mem_filter.mp hp
      · exact h.working p hp
      · rw [evict_eq (e := { e with reports }) live]
        exact (others p hp (fun here => absurd here (of_decide_eq_true elsewhere)) x hx).of_more
          (fun _ hx => hx) (fun _ hx => hx) (fun _ hx => List.mem_append_left _ hx)
    · next other =>
      exact ⟨h.working, fun p hp => others p hp fun here => only hp here ▸ other⟩
  · next absent =>
    have absent : e.session? r.key = none := absent
    refine ⟨h.working, fun p hp => others p hp fun here => ?_⟩
    exact absurd (here ▸ List.mem_map_of_mem hp) (notMem_keys_of_session? absent)

theorem create (h : Announced e) (now : Instant) (client remote : Endpoint) :
    Announced (e.create now client remote) := by
  refine ⟨fun p hp => ?_, fun p hp x hx => ?_⟩ <;> rcases List.mem_append.mp hp with hp | hp
  · exact h.working p hp
  · rw [List.mem_singleton.mp hp]
    exact ⟨ForwarderPhase.noConfusion, ReplierPhase.noConfusion⟩
  · exact (h.known p hp x hx).of_more (fun _ hx => hx) (fun _ hx => hx)
      (fun _ hx => List.mem_append_left _ hx)
  · rw [List.mem_singleton.mp hp] at hx
    cases hx

theorem enqueue (h : Announced e) (table : Registered e) (now : Instant) {d : Datagram}
    (live : e.session? d.source.text = some s) :
    Announced (e.enqueue now s d.source.text d) := by
  have reports : (e.enqueue now s d.source.text d).reports = e.reports :=
    enqueue_frame (·.reports) (by intros; rfl) _
  have raised : (e.enqueue now s d.source.text d).raised = e.raised :=
    enqueue_frame (·.raised) (by intros; rfl) _
  have log : e.log <+: (e.enqueue now s d.source.text d).log := by
    rw [log_enqueue]
    exact List.prefix_append ..
  have kept {k : String} {x : Session} {reason : FailureReason} (known : e.Knows k x reason) :
      (e.enqueue now s d.source.text d).Knows k x reason :=
    known.of_more (fun _ hx => reports ▸ hx) (fun _ hx => raised ▸ hx) (fun _ hx => log.mem hx)
  have here := mem_table_of_session? live
  refine ⟨fun p hp => ?_, fun p hp x hx => ?_⟩ <;>
    rcases mem_table_enqueue table.unique live hp with rfl | ⟨hp, -⟩
  · refine ⟨?_, (h.working _ here).2⟩
    cases room : s.forwarder.offer d.payload with
    | none => simp only [Session.taken, room, Option.getD_none]; exact (h.working _ here).1
    | some f =>
      obtain ⟨-, rfl⟩ := Forwarder.offer_eq_some room
      simp only [Session.taken, room, Option.getD_some]
      exact (h.working _ here).1
  · exact h.working p hp
  · rw [s.reports_taken now d.payload] at hx
    exact kept (h.known _ here x hx)
  · exact kept (h.known p hp x hx)

theorem handleDatagram (h : Announced e) (table : Registered e) (now : Instant) (o : Opening)
    (d : Datagram) : Announced (e.handleDatagram now o d) := by
  have refused (e : Engine) (h : Announced e) (error : Error) :
      Announced (e.refuse now d error) :=
    h.of_sub (fun _ hp => hp) (fun _ hx => hx) (fun _ hx => hx)
      (fun _ hx => List.mem_append_left _ hx)
  obtain ⟨s, live, eq⟩ | ⟨absent, ⟨error, eq⟩ | ⟨remote, -, ⟨error, eq⟩ | ⟨-, eq⟩ |
    ⟨size, s, live, eq⟩⟩⟩ := e.handleDatagram_cases now o d
  · rw [eq]; exact h.enqueue table now live
  · rw [eq]; exact refused e h error
  · rw [eq]; exact refused { e with resolved := some remote } ⟨h.working, h.known⟩ error
  · rw [eq]; exact ⟨fun _ hp => absurd hp List.not_mem_nil, fun _ hp => absurd hp List.not_mem_nil⟩
  · have known : Announced { e with resolved := some remote } := ⟨h.working, h.known⟩
    rw [eq]
    exact (known.create now d.source remote).enqueue
      ((table.found remote).create now absent size) now live

theorem act (h : Announced e) (table : Registered e) (isOpen : e.reports.closed = false)
    {a : Action} (act : e.act now a = some e') : Announced e' := by
  cases a with
  | sweep order =>
    simp only [Engine.act] at act
    split at act
    · cases act; exact h.sweep now order
    · cases act
  | report =>
    simp only [Engine.act] at act
    split at act
    · obtain ⟨⟨r, reports⟩, next, rfl⟩ := Option.map_eq_some_iff.mp act
      exact h.takeReport table next
    · cases act
  | query =>
    simp only [Engine.act] at act
    split at act
    · cases act; exact h
    · cases act
  | task place input =>
    obtain ⟨key, s, s', effect, live, step, rfl⟩ | ⟨index, s, s', effect, -, -, rfl⟩ :=
      stepTask_cases act
    · exact h.step table isOpen live step
    · obtain ⟨items, raised, log⟩ :=
        ({ e with removed := e.removed.set index s' } : Engine).apply_adds now s effect
      have sessions : ({ e with removed := e.removed.set index s' }.apply now s effect).table =
          e.table := apply_frame (·.table) (by intros; rfl)
      exact h.of_sub (fun p hp => sessions ▸ hp) (fun _ hx => items.mem hx)
        (fun _ hx => raised.mem hx) (fun _ hx => log.mem hx)

end Announced

/-- Sessions with numbers of their own have two tasks with one report each. -/
theorem countP_reports_le {sessions : List Session} (distinct : (sessions.map (·.id)).Nodup)
    (id : UInt64) : (sessions.flatMap Session.reports).countP (·.id == id) ≤ 2 := by
  induction sessions with
  | nil => exact Nat.zero_le _
  | cons s rest ih =>
    rw [List.map_cons, List.nodup_cons] at distinct
    rw [List.flatMap_cons, List.countP_append]
    by_cases here : s.id = id
    · have none : (rest.flatMap Session.reports).countP (·.id == id) = 0 := by
        refine List.countP_eq_zero.mpr fun x hx same => distinct.1 ?_
        obtain ⟨other, hother, hx⟩ := List.mem_flatMap.mp hx
        rw [here, ← eq_of_beq same, Session.id_of_mem hx]
        exact List.mem_map_of_mem hother
      rw [none]
      exact Nat.le_trans List.countP_le_length s.length_reports_le
    · have none : s.reports.countP (·.id == id) = 0 := by
        refine List.countP_eq_zero.mpr fun x hx same => here ?_
        rw [← Session.id_of_mem hx]
        exact eq_of_beq same
      have := ih distinct.2
      omega

end Engine

namespace Relay

open Engine

variable {r r' : Relay} {now : Instant}

/-- A manager that is gone does not come back. -/
theorem running_of_act {a : Action} (act : r.act now a = some r')
    (running : r'.engine.running = true) : r.engine.running = true := by
  obtain ⟨stats, more, same⟩ | ⟨on, -⟩ | ⟨a, -, step⟩ := act_cases act
  · rw [same] at running; exact running
  · exact on
  · exact (Engine.act_frame (·.running) (by intros; rfl) step).symm.trans running

theorem announced_act (h : Announced r.engine) (table : Registered r.engine)
    (isOpen : r.engine.reports.closed = false) {a : Action} (act : r.act now a = some r') :
    Announced r'.engine := by
  obtain ⟨stats, more, same⟩ | ⟨-, o, d, same⟩ | ⟨a, -, step⟩ := act_cases act
  · rw [same]
    exact h.of_sub (fun _ hp => hp) (fun _ hx => hx) (fun _ hx => hx)
      (fun _ hx => List.mem_append_left _ hx)
  · rw [same]; exact h.handleDatagram table now o d
  · exact h.act table isOpen step

theorem Reachable.announced {l : Listener} {cores : UInt64} {memory : Nat} {began t : Instant}
    {start r : Relay} (started : l.start? cores memory began = some start)
    (reached : Reachable start t r) (running : r.engine.running = true) : Announced r.engine := by
  induction reached with
  | start t =>
    rw [Listener.engine_of_start? started]
    exact ⟨fun _ hp => absurd hp List.not_mem_nil, fun _ hp => absurd hp List.not_mem_nil⟩
  | step before _ act ih =>
    have running := running_of_act act running
    obtain ⟨table, reported⟩ := before.reported started
    have isOpen := reported.closed
    rw [running] at isOpen
    exact announced_act (ih running) table isOpen act

/-- What is known of the tasks that have ended, and of the reports that were ever made. -/
structure Announces (r : Relay) : Prop where
  forwarders : ∀ p ∈ r.engine.table, p.2.forwarder.isAlive = false →
    r.engine.Knows p.1 p.2 .write
  repliers : ∀ p ∈ r.engine.table, p.2.replier.isAlive = false →
    ∃ reason, p.2.replier.phase = .failed reason ∧ r.engine.Knows p.1 p.2 reason
  /-- The log names the reports that were refused, in order. -/
  refused : r.engine.log.filterMap Event.overflow? =
    (r.engine.raised.filter (·.fate = .full)).map fun y => (y.report.key, y.report.reason)
  counted : r.engine.stats.overflows =
    UInt64.ofNat (r.engine.log.filterMap Event.overflow?).length
  /-- Each task that gave up made one report, and there are no others. -/
  once : (r.engine.raised.map (·.report)).Perm (r.engine.everySession.flatMap Session.reports)
  last : ∀ s ∈ r.engine.everySession,
    (s.forwarder.isAlive = false → ∀ isOpen input, s.forwarder.step isOpen input = none) ∧
    (s.replier.isAlive = false → ∀ size timeout input, s.replier.step size timeout input = none)
  twice : r.engine.everySession.length < UInt64.size →
    ∀ id, r.engine.raised.countP (·.report.id == id) ≤ 2

theorem Reachable.announces {l : Listener} {cores : UInt64} {memory : Nat} {began t : Instant}
    {start r : Relay} (started : l.start? cores memory began = some start)
    (reached : Reachable start t r) (running : r.engine.running = true) : r.Announces := by
  obtain ⟨table, reported⟩ := reached.reported started
  have announced := reached.announced started running
  refine ⟨fun p hp ended => ?_, fun p hp ended => ?_, reported.refused, reported.counted,
    reported.made, fun s _ => ⟨fun ended => Forwarder.step_eq_none ended,
      fun ended => Replier.step_eq_none ended⟩, fun few id => ?_⟩
  · have failed : p.2.forwarder.hasFailed = true := by
      cases phase : p.2.forwarder.phase with
      | receiving | writing _ => rw [Forwarder.isAlive, phase] at ended; cases ended
      | finished => exact absurd phase (announced.working p hp).1
      | failed _ => rw [Forwarder.hasFailed, phase]
    exact announced.known p hp _ (Session.report_mem_of_hasFailed failed)
  · cases phase : p.2.replier.phase with
    | waiting | responding _ => rw [Replier.isAlive, phase] at ended; cases ended
    | stopped => exact absurd phase (announced.working p hp).2
    | failed reason =>
      exact ⟨reason, rfl, announced.known p hp _ (Session.report_mem_of_failure phase)⟩
  · have counted : r.engine.raised.countP (·.report.id == id) =
        (r.engine.everySession.flatMap Session.reports).countP (·.id == id) := by
      rw [← reported.made.countP_eq, List.countP_map]
      rfl
    rw [counted]
    exact countP_reports_le (table.ids_nodup_of_few few) id

def hastyListener : Listener :=
  ⟨.v4 ⟨127, 0, 0, 1⟩ 7000, "example.net:53", { eventQueue := 1 }⟩

/-- Two clients have a session each, and neither datagram can be written. No report is taken. -/
def unwritableActions : List (Instant × Action) :=
  let a : Endpoint := .v4 ⟨10, 0, 0, 1⟩ 4001
  let b : Endpoint := .v4 ⟨10, 0, 0, 2⟩ 4001
  let free : Opening := ⟨.ok [.v4 ⟨192, 0, 2, 1⟩ 53], .ok ()⟩
  let forwarder (client : Endpoint) (input : ForwarderInput) : Action :=
    .engine (.task (.live client.text) (.forwarder input))
  [(.ofMillis 1, .receive ⟨a, [1]⟩), (.ofMillis 1, .take), (.ofMillis 1, .finish free),
   (.ofMillis 1, .receive ⟨b, [2]⟩), (.ofMillis 1, .take), (.ofMillis 1, .finish free),
   (.ofMillis 2, forwarder a .take), (.ofMillis 2, forwarder a (.writeFailed .messageTooLong)),
   (.ofMillis 2, forwarder b .take), (.ofMillis 2, forwarder b (.writeFailed .messageTooLong))]

/-- One of the two dead sessions has a report on its way, and the other has an event. -/
theorem announces_unwritable : ∃ start t r, hastyListener.start? 1 65536 .zero = some start ∧
    Reachable start t r ∧ r.engine.running = true ∧ r.Announces ∧
    r.engine.table.countP (fun p => !p.2.forwarder.isAlive) = 2 ∧
    r.engine.reports.items.length = 1 ∧ r.engine.stats.overflows = 1 := by
  obtain ⟨start, t, r, started, reached, shape⟩ :=
    exists_reachable hastyListener 1 65536 unwritableActions
      (fun _ r => r.engine.running &&
        r.engine.table.countP (fun p => !p.2.forwarder.isAlive) == 2 &&
        r.engine.reports.items.length == 1 && r.engine.stats.overflows == 1) (by decide +kernel)
  simp only [Bool.and_eq_true, beq_iff_eq] at shape
  obtain ⟨⟨⟨running, dead⟩, queued⟩, overflows⟩ := shape
  exact ⟨start, t, r, started, reached, running, reached.announces started running, dead, queued,
    overflows⟩

end Relay

end SocketRelay.Udp
