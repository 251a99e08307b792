import SocketRelay.Proofs.Udp.Conservation

/-!
# Each session forwards in order

What a session's queue took is part of what its client sent, in the order of
arrival, and what its forwarder wrote is the beginning of that. This holds for
removed sessions too, and for several sessions of one client. A forwarder that
failed wrote what was before the payload that it could not write, and reported
it once (`Relay.Reachable.forwardsInOrder`).
-/

namespace SocketRelay.Udp

open Net

def payloadsFrom (client : Endpoint) (ds : List Datagram) : List Payload :=
  (ds.filter fun d => d.source.withoutFlow = client.withoutFlow).map (·.payload)

theorem payloadsFrom_append (client : Endpoint) (ds more : List Datagram) :
    payloadsFrom client (ds ++ more) = payloadsFrom client ds ++ payloadsFrom client more := by
  rw [payloadsFrom, payloadsFrom, payloadsFrom, List.filter_append, List.map_append]

theorem payloadsFrom_isPrefix (client : Endpoint) {ds ds' : List Datagram} (h : ds <+: ds') :
    payloadsFrom client ds <+: payloadsFrom client ds' := by
  obtain ⟨more, rfl⟩ := h
  rw [payloadsFrom_append]
  exact List.prefix_append ..

theorem payloadsFrom_self {client : Endpoint} {d : Datagram}
    (same : d.source.withoutFlow = client.withoutFlow) : payloadsFrom client [d] = [d.payload] := by
  simp [payloadsFrom, same]

namespace Engine

/-- Whether a session's forwarder failed, and a report would be its report of that. -/
def failedWith (report : Report) (s : Session) : Bool :=
  s.forwarder.hasFailed && s.reporter.report .write == report

theorem stepSession_failed {e : Engine} {now : Instant} {s s' : Session} {isOpen : Bool}
    {input : TaskInput} {effect : Effect}
    (h : e.stepSession now s isOpen input = some (s', effect)) :
    (s'.forwarder.hasFailed = s.forwarder.hasFailed ∧ ∀ cause, effect ≠ .failed .write cause) ∨
    (s.forwarder.hasFailed = false ∧ s'.forwarder.hasFailed = true ∧
      ∃ cause, effect = .failed .write cause) := by
  obtain ⟨i, f, moved, rfl⟩ | ⟨i, r, moved, -, rfl⟩ := stepSession_cases h
  · obtain ⟨same, others⟩ | failed := Forwarder.step_failed moved
    · exact .inl ⟨same, fun cause => others .write cause⟩
    · exact .inr failed
  · refine .inl ⟨rfl, fun cause write => ?_⟩
    subst write
    obtain ⟨-, none | ⟨p, replied⟩⟩ | ⟨reason, cause, failed, -, reasons⟩ :=
      Replier.step_cases moved
    · cases none
    · cases replied
    · cases failed
      rcases reasons with read | respond | ⟨idle, -⟩
      · cases read
      · cases respond
      · cases idle

structure Ordered (e : Engine) : Prop where
  accepted : ∀ s ∈ e.everySession,
    s.forwarder.accepted.Sublist (payloadsFrom s.client (e.handled.map (·.2)))
  reported : ∀ report : Report, report.reason = .write →
    e.raised.countP (·.report == report) = e.everySession.countP (failedWith report)

namespace Ordered

variable {e e' : Engine} {now : Instant} {s s' : Session}

theorem of_perm (h : Ordered e) (every : e'.everySession.Perm e.everySession)
    (handled : e.handled <+: e'.handled) (raised : e'.raised = e.raised) : Ordered e' := by
  refine ⟨fun s hs => ?_, fun report write => ?_⟩
  · exact (h.accepted s (every.subset hs)).trans
      (payloadsFrom_isPrefix _ (handled.map _)).sublist
  · rw [raised, every.countP_eq]
    exact h.reported report write

theorem create (h : Ordered e) (now : Instant) (client remote : Endpoint) :
    Ordered (e.create now client remote) := by
  let s := Session.start (e.lastId + 1) client remote e.settings.outboundQueue.toNat now
  have every : (e.create now client remote).everySession = e.everySession ++ [s] :=
    e.everySession_create now client remote
  refine ⟨fun x hx => ?_, fun report write => ?_⟩
  · rw [every] at hx
    rcases List.mem_append.mp hx with hx | hx
    · exact h.accepted x hx
    · rw [List.mem_singleton.mp hx]
      exact List.nil_sublist _
  · have none : failedWith report s = false := rfl
    rw [every, List.countP_append, List.countP_singleton, none, ← h.reported report write]
    rfl

/-- One session takes payloads of its client that the manager dealt with. -/
theorem of_taken (h : Ordered e) (every : Replaced s s' e.everySession e'.everySession)
    (more : List Payload) (accepted : s'.forwarder.accepted = s.forwarder.accepted ++ more)
    (client : s'.client = s.client) (failed : ∀ report, failedWith report s' = failedWith report s)
    {d : Datagram} (handled : e'.handled = e.handled ++ [(now, d)])
    (from_client : more.Sublist (payloadsFrom s.client [d])) (raised : e'.raised = e.raised) :
    Ordered e' := by
  have longer (client : Endpoint) : payloadsFrom client (e'.handled.map (·.2)) =
      payloadsFrom client (e.handled.map (·.2)) ++ payloadsFrom client [d] := by
    rw [handled, List.map_append, payloadsFrom_append]
    rfl
  refine ⟨fun x hx => ?_, fun report write => ?_⟩
  · rw [longer]
    rcases every.mem hx with rfl | hx
    · rw [accepted, client]
      exact (h.accepted s every.mem_before).append from_client
    · exact (h.accepted x hx).trans (List.sublist_append_left ..)
  · have changed := every.countP (failedWith report)
    rw [failed] at changed
    rw [raised, h.reported report write]
    omega

theorem enqueue (h : Ordered e) (table : Registered e) {d : Datagram}
    (live : e.session? d.source.text = some s) :
    Ordered (e.enqueue now s d.source.text d) := by
  have same : d.source.withoutFlow = s.client.withoutFlow :=
    Endpoint.text_eq_text_iff.mp (table.named _ (mem_table_of_session? live))
  have every := everySession_enqueue now d table.unique live
  have raised : (e.enqueue now s d.source.text d).raised = e.raised :=
    enqueue_frame (·.raised) (by intros; rfl) _
  cases room : s.forwarder.offer d.payload with
  | some f =>
    obtain ⟨-, offered⟩ := Forwarder.offer_eq_some room
    refine h.of_taken every [d.payload] ?_ rfl ?_ (handled_enqueue _) ?_ raised
    · simp [Session.taken, room, offered]
    · intro report
      simp [failedWith, Session.taken, Session.reporter, Forwarder.hasFailed, room, offered]
    · rw [payloadsFrom_self same]
  | none =>
    refine h.of_taken every [] ?_ rfl ?_ (handled_enqueue _) (List.nil_sublist _) raised
    · simp [Session.taken, room]
    · intro report
      simp [failedWith, Session.taken, Session.reporter, room]

theorem step (h : Ordered e) {isOpen : Bool} {input : TaskInput} {effect : Effect}
    (step : e.stepSession now s isOpen input = some (s', effect)) {e₁ : Engine}
    (every : Replaced s s' e.everySession e₁.everySession)
    (same : e₁ = { e with table := e₁.table, removed := e₁.removed }) :
    Ordered (e₁.apply now s effect) := by
  obtain ⟨id, client, -⟩ := stepSession_identity step
  have reporter : s'.reporter = s.reporter := by rw [Session.reporter, id, client, Session.reporter]
  have sessions := everySession_apply e₁ now s effect
  have handled : (e₁.apply now s effect).handled = e.handled :=
    (apply_frame (·.handled) (by intros; rfl)).trans (by rw [same])
  have before : e₁.raised = e.raised := by rw [same]
  have accepted : s'.forwarder.accepted = s.forwarder.accepted := by
    obtain ⟨i, f, moved, rfl⟩ | ⟨i, r, moved, -, rfl⟩ := stepSession_cases step
    · exact (Forwarder.step_sent moved).1
    · rfl
  refine ⟨fun x hx => ?_, fun report write => ?_⟩
  · rw [handled]
    rw [sessions] at hx
    rcases every.mem hx with rfl | hx
    · rw [accepted, client]
      exact h.accepted s every.mem_before
    · exact h.accepted x hx
  · rw [sessions]
    have changed := every.countP (failedWith report)
    have counted := h.reported report write
    obtain ⟨same_failed, others⟩ | ⟨alive, failed, cause, rfl⟩ := stepSession_failed step
    · -- A replier may have made a report, but not of a failed write.
      have unchanged : failedWith report s' = failedWith report s := by
        rw [failedWith, same_failed, reporter, failedWith]
      have raised : (e₁.apply now s effect).raised.countP (·.report == report) =
          e.raised.countP (·.report == report) := by
        obtain ⟨reason, cause, fate, rfl, raised⟩ | ⟨-, raised⟩ := apply_raised e₁ now s effect
        · have other : (s.reporter.report reason == report) = false := by
            refine beq_eq_false_iff_ne.mpr fun eq => others cause ?_
            rw [← eq] at write
            rw [show reason = .write from write]
          rw [raised, before, List.countP_append, List.countP_singleton, other]
          rfl
        · rw [raised, before]
      rw [unchanged] at changed
      omega
    · obtain ⟨reason, cause', fate, eq, raised⟩ | ⟨none, -⟩ :=
        apply_raised e₁ now s (.failed .write cause)
      · cases eq
        have was : failedWith report s = false := by rw [failedWith, alive, Bool.false_and]
        have is : failedWith report s' = (s.reporter.report .write == report) := by
          rw [failedWith, failed, reporter, Bool.true_and]
        rw [was, is, if_neg Bool.false_ne_true, Nat.add_zero] at changed
        rw [raised, before, List.countP_append, List.countP_singleton, changed, counted]
      · exact absurd rfl (none .write cause)

theorem move (m : Move now e e') (table : Registered e) (h : Ordered e) : Ordered e' := by
  cases m with
  | received | readFailed | stalled | resolved | reportTaken => exact ⟨h.accepted, h.reported⟩
  | refused error absent => exact h.of_perm (.refl _) (List.prefix_append ..) rfl
  | stopped size => exact h.of_perm (.of_eq (everySession_stop e)) (List.prefix_refl _) rfl
  | created absent known size => exact h.create now _ _
  | enqueued live => exact h.enqueue table live
  | swept live idle =>
    refine h.of_perm (everySession_evict table.unique live _) ?_ ?_ <;> rw [evict_eq live]
    · exact List.prefix_refl _
    · rfl
  | reported live same =>
    refine h.of_perm (everySession_evict table.unique live _) ?_ ?_ <;> rw [evict_eq live]
    · exact List.prefix_refl _
    · rfl
  | stepped live step =>
    exact h.step step (everySession_update table.unique live _) rfl
  | @drained index s s' input effect gone step =>
    exact h.step step (everySession_set gone s') rfl

end Ordered

end Engine

namespace Relay

open Engine

theorem Reachable.ordered {l : Listener} {cores : UInt64} {memory : Nat} {began t : Instant}
    {start r : Relay} (started : l.start? cores memory began = some start)
    (reached : Reachable start t r) :
    Ordered r.engine :=
  (reached.registered_keeps (P := fun _ e => Ordered e) started (fun _ h => h)
    (fun m table h => h.move m table)
    fun _ => ⟨fun _ hs => absurd hs List.not_mem_nil, fun _ _ => rfl⟩).2

/-- What a session did with the datagrams of its client. -/
structure ForwardsInOrder (r : Relay) (s : Session) : Prop where
  sent_isPrefix : s.forwarder.sent <+: s.forwarder.accepted
  accepted_sublist : s.forwarder.accepted.Sublist (payloadsFrom s.client r.received)
  ended : s.forwarder.isAlive = false →
    (s.forwarder.phase = .finished ∧ s.forwarder.sent = s.forwarder.accepted) ∨
    (∃ p, s.forwarder.phase = .failed p ∧
      s.forwarder.accepted = s.forwarder.sent ++ p :: s.forwarder.queue)
  still : s.forwarder.isAlive = false → ∀ isOpen input, s.forwarder.step isOpen input = none
  /-- Every forwarder that failed made one report, whichever sessions the numbers tell apart. -/
  reports : r.engine.raised.countP (·.report == s.reporter.report .write) =
    r.engine.everySession.countP (failedWith (s.reporter.report .write))
  /-- As long as numbers have not run out, the report of this session. -/
  reported : r.engine.everySession.length < UInt64.size →
    r.engine.raised.countP (·.report == s.reporter.report .write) =
      if s.forwarder.hasFailed then 1 else 0

theorem Reachable.forwardsInOrder {l : Listener} {cores : UInt64} {memory : Nat} {began t : Instant}
    {start r : Relay} (started : l.start? cores memory began = some start)
    (reached : Reachable start t r) {s : Session} (hs : s ∈ r.engine.everySession) :
    r.ForwardsInOrder s := by
  obtain ⟨registered, accounted⟩ := reached.accounted started
  have ordered := reached.ordered started
  have inOrder := reached.inOrder (inOrder_start started)
  have tracked := accounted.tracked s hs
  refine ⟨?_, ?_, tracked.ended, fun ended => Forwarder.step_eq_none ended,
    ordered.reported _ rfl, fun few => ?_⟩
  · rw [tracked.accounted]
    exact List.prefix_append ..
  · exact (ordered.accepted s hs).trans
      (payloadsFrom_isPrefix _ inOrder.handled_isPrefix).sublist
  · have only (x : Session) (failed : failedWith (s.reporter.report .write) x = true) :
        x.id = s.id := by
      obtain ⟨-, same⟩ := Bool.and_eq_true_iff.mp failed
      exact congrArg Report.id (eq_of_beq same)
    rw [ordered.reported _ rfl, registered.countP_of_few few hs only, failedWith, beq_self_eq_true,
      Bool.and_true]

/-- The session of the client that sent three datagrams, two of which its queue took. -/
theorem forwardsInOrder_mixed : ∃ start t r s, narrowListener.start? 1 65536 .zero = some start ∧
    Reachable start t r ∧ s ∈ r.engine.everySession ∧ r.ForwardsInOrder s ∧
    s.forwarder.sent = [[1]] ∧ s.forwarder.phase = .failed [3] := by
  obtain ⟨start, t, r, started, reached, failed⟩ :=
    exists_reachable narrowListener 1 65536 mixedActions
      (fun _ r => r.engine.everySession.any fun s =>
        s.forwarder.sent == [[1]] && s.forwarder.phase == .failed [3]) (by decide +kernel)
  obtain ⟨s, hs, shape⟩ := List.any_eq_true.mp failed
  simp only [Bool.and_eq_true, beq_iff_eq] at shape
  exact ⟨start, t, r, s, started, reached, hs, reached.forwardsInOrder started hs, shape⟩

end Relay

end SocketRelay.Udp
