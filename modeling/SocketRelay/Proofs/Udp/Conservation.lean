import SocketRelay.Proofs.Udp.Forwarders
import SocketRelay.Proofs.Udp.ReadLoop
import SocketRelay.Proofs.Udp.SessionTable
import Mathlib.Data.List.Perm.Basic

/-!
# Where the datagrams of a relay are

`Accounted` says what became of the datagrams that the manager dealt with: each
was refused, dropped or taken by the queue of a session, and the counters agree
with that. Every move keeps it. Together with the order from the listener to the
manager it places every datagram that was read (`Relay.Reachable.conserved`). Two
of the places are hands: that of the manager, which may look up or dial, and those
of forwarders that write. A session knows its client up to the flow of the
address, so datagrams are compared without it.
-/

namespace SocketRelay.Udp

open Net

namespace Engine

/-- The datagrams that some session's queue ever took. -/
def accepted (e : Engine) : List Datagram := e.everySession.flatMap Session.accepted

/-- The datagrams that were written to a remote. -/
def written (e : Engine) : List Datagram := e.everySession.flatMap Session.written

/-- The datagrams that forwarders are writing, whether or not their sessions are in the table. -/
def writing (e : Engine) : List Datagram := e.everySession.flatMap Session.writing

/-- The datagrams in the queues of forwarders that are alive. -/
def waiting (e : Engine) : List Datagram := e.everySession.flatMap Session.waiting

/-- The datagrams of forwarders that failed. -/
def lost (e : Engine) : List Datagram := e.everySession.flatMap Session.lost

structure Accounted (e : Engine) : Prop where
  tracked : ∀ s ∈ e.everySession, s.forwarder.Tracked
  handled : (e.handled.map (·.2.withoutFlow)).Perm
    ((e.refused ++ e.dropped).map Datagram.withoutFlow ++ e.accepted)
  refused : e.stats.dialFailures = UInt64.ofNat e.refused.length
  dropped : e.stats.dropped = UInt64.ofNat e.dropped.length
  forwarded : e.stats.forwarded = UInt64.ofNat e.written.length

theorem Registered.datagram_payload {e : Engine} (h : Registered e) {d : Datagram} {s : Session}
    (live : e.session? d.source.text = some s) : s.datagram d.payload = d.withoutFlow := by
  have named := h.named _ (mem_table_of_session? live)
  rw [Session.datagram, Datagram.withoutFlow, ← Endpoint.text_eq_text_iff.mp named]

namespace Accounted

variable {e e' : Engine} {now : Instant} {s s' : Session}

theorem refuse (h : Accounted e) (now : Instant) (d : Datagram) (error : Error) :
    Accounted (e.refuse now d error) := by
  refine ⟨h.tracked, ?_, ?_, h.dropped, h.forwarded⟩
  · rw [List.perm_iff_count]
    intro a
    have before := h.handled.count_eq a
    have accepted : (e.refuse now d error).accepted = e.accepted := rfl
    rw [accepted]
    simp only [Engine.refuse, record, List.map_append, List.count_append, List.map_singleton]
      at before ⊢
    omega
  · simp only [Engine.refuse, record, List.length_append, List.length_singleton, UInt64.ofNat_add,
      h.refused]
    rfl

theorem create (h : Accounted e) (now : Instant) (client remote : Endpoint) :
    Accounted (e.create now client remote) := by
  let s := Session.start (e.lastId + 1) client remote e.settings.outboundQueue.toNat now
  have every : (e.create now client remote).everySession = e.everySession ++ [s] :=
    e.everySession_create now client remote
  have accepted : (e.create now client remote).accepted = e.accepted := by
    rw [Engine.accepted, every, List.flatMap_append, List.flatMap_singleton]
    exact List.append_nil _
  have written : (e.create now client remote).written = e.written := by
    rw [Engine.written, every, List.flatMap_append, List.flatMap_singleton]
    exact List.append_nil _
  refine ⟨?_, ?_, h.refused, h.dropped, ?_⟩
  · intro x hx
    rw [every] at hx
    rcases List.mem_append.mp hx with hx | hx
    · exact h.tracked x hx
    · rw [List.mem_singleton.mp hx]
      exact Forwarder.tracked_start _
  · rw [accepted]; exact h.handled
  · rw [written]; exact h.forwarded

/-- The same sessions in another order. -/
theorem of_perm (h : Accounted e) (every : e'.everySession.Perm e.everySession)
    (same : e' = { e with
      table := e'.table, removed := e'.removed, log := e'.log, running := e'.running,
      reports := e'.reports, stats.evicted := e'.stats.evicted }) : Accounted e' := by
  have accepted : e'.accepted.Perm e.accepted := every.flatMap_right _
  have written : e'.written.Perm e.written := every.flatMap_right _
  refine ⟨fun s hs => h.tracked s (every.subset hs), ?_, ?_, ?_, ?_⟩
  · rw [same]
    exact h.handled.trans (accepted.symm.append_left _)
  · rw [same]; exact h.refused
  · rw [same]; exact h.dropped
  · rw [written.length_eq, same]; exact h.forwarded

/-- One session takes `more` datagrams, which the manager dealt with, and writes `n`. -/
theorem of_replaced (h : Accounted e) (every : Replaced s s' e.everySession e'.everySession)
    (tracked : s'.forwarder.Tracked) (more : List Datagram) (n : Nat)
    (accepted : s'.accepted = s.accepted ++ more)
    (sent : s'.written.length = s.written.length + n)
    (handled : e'.handled.map (·.2.withoutFlow) = e.handled.map (·.2.withoutFlow) ++ more)
    (refused : e'.refused = e.refused) (dropped : e'.dropped = e.dropped)
    (dialFailures : e'.stats.dialFailures = e.stats.dialFailures)
    (drops : e'.stats.dropped = e.stats.dropped)
    (forwarded : e'.stats.forwarded = e.stats.forwarded + UInt64.ofNat n) : Accounted e' := by
  refine ⟨?_, ?_, ?_, ?_, ?_⟩
  · intro x hx
    rcases every.mem hx with rfl | hx
    · exact tracked
    · exact h.tracked x hx
  · -- One session's share changes, so the datagrams are counted one by one.
    rw [handled, refused, dropped, List.perm_iff_count]
    intro a
    have before := h.handled.count_eq a
    have changed := every.count_flatMap Session.accepted a
    rw [accepted, List.count_append] at changed
    rw [List.count_append] at before
    rw [List.count_append, List.count_append]
    unfold Engine.accepted at before ⊢
    omega
  · rw [dialFailures, refused]; exact h.refused
  · rw [drops, dropped]; exact h.dropped
  · have changed := every.length_flatMap Session.written
    have length : e'.written.length = e.written.length + n := by
      unfold Engine.written
      omega
    rw [forwarded, length, UInt64.ofNat_add, h.forwarded]

theorem drop (h : Accounted e) (now : Instant) (d : Datagram) :
    Accounted { e with
      handled := e.handled ++ [(now, d)]
      dropped := e.dropped ++ [d]
      stats.dropped := e.stats.dropped + 1 } := by
  refine ⟨h.tracked, ?_, h.refused, ?_, h.forwarded⟩
  · show List.Perm ((e.handled ++ [(now, d)]).map _)
      ((e.refused ++ (e.dropped ++ [d])).map _ ++ e.accepted)
    rw [List.perm_iff_count]
    intro a
    have before := h.handled.count_eq a
    simp only [List.map_append, List.count_append, List.map_singleton] at before ⊢
    omega
  · simp only [List.length_append, List.length_singleton, UInt64.ofNat_add, h.dropped]
    rfl

theorem enqueue (h : Accounted e) (table : Registered e) {d : Datagram}
    (live : e.session? d.source.text = some s) :
    Accounted (e.enqueue now s d.source.text d) := by
  have tracked := h.tracked s (mem_everySession_of_session? live)
  have unique : { e with handled := e.handled ++ [(now, d)] }.keys.Nodup := table.unique
  cases room : s.forwarder.offer d.payload with
  | some f =>
    obtain ⟨-, offered⟩ := Forwarder.offer_eq_some room
    have every := everySession_update unique live fun s =>
      { s with forwarder := f, clock := s.clock.touch now }
    rw [enqueue_of_offer_some room]
    refine h.of_replaced every (tracked.offer room) [d.withoutFlow] 0 ?_ ?_ ?_ rfl rfl rfl rfl
      (UInt64.add_zero _).symm
    · rw [← table.datagram_payload live]
      simp [Session.accepted, Session.datagram, offered]
    · simp [Session.written, offered]
    · simp [update]
  | none =>
    have every := everySession_update unique live fun s => { s with clock := s.clock.touch now }
    rw [enqueue_of_offer_none room]
    exact (h.drop now d).of_replaced every tracked [] 0 (List.append_nil _).symm
      rfl (List.append_nil _).symm rfl rfl rfl rfl (UInt64.add_zero _).symm

/-- A step of a task, in the table or out of it. -/
theorem step (h : Accounted e) {isOpen : Bool} {input : TaskInput} {effect : Effect}
    (step : e.stepSession now s isOpen input = some (s', effect)) {e₁ : Engine}
    (every : Replaced s s' e.everySession e₁.everySession)
    (same : e₁ = { e with table := e₁.table, removed := e₁.removed }) :
    Accounted (e₁.apply now s effect) := by
  have tracked := h.tracked s every.mem_before
  have kept : s'.forwarder.Tracked ∧ s'.accepted = s.accepted ∧
      s'.written.length = s.written.length + if effect = .forwarded then 1 else 0 := by
    obtain ⟨i, f, moved, rfl⟩ | ⟨i, r, moved, -, rfl⟩ := stepSession_cases step
    · obtain ⟨accepted, sent⟩ := Forwarder.step_sent moved
      refine ⟨tracked.step moved, ?_, ?_⟩
      · simp [Session.accepted, Session.datagram, accepted]
      · simpa [Session.written] using sent
    · refine ⟨tracked, rfl, ?_⟩
      rw [if_neg (Replier.step_ne_forwarded moved)]
      rfl
  obtain ⟨tracked, accepted, sent⟩ := kept
  have sessions := everySession_apply e₁ now s effect
  have handled : (e₁.apply now s effect).handled = e.handled :=
    (apply_frame (·.handled) (by intros; rfl)).trans (by rw [same])
  have forwarded : (e₁.apply now s effect).stats.forwarded =
      e.stats.forwarded + UInt64.ofNat (if effect = .forwarded then 1 else 0) := by
    rw [apply_forwarded, same]
  refine h.of_replaced (s := s) ?_ tracked [] _
    (accepted.trans (List.append_nil _).symm) sent ?_ ?_ ?_ ?_ ?_ forwarded
  · rw [sessions]; exact every
  · rw [handled, List.append_nil]
  · exact (apply_frame (·.refused) (by intros; rfl)).trans (by rw [same])
  · exact (apply_frame (·.dropped) (by intros; rfl)).trans (by rw [same])
  · exact (apply_frame (·.stats.dialFailures) (by intros; rfl)).trans (by rw [same])
  · exact (apply_frame (·.stats.dropped) (by intros; rfl)).trans (by rw [same])

theorem move (m : Move now e e') (table : Registered e) (h : Accounted e) : Accounted e' := by
  cases m with
  | received | readFailed | stalled | resolved | reportTaken =>
    exact ⟨h.tracked, h.handled, h.refused, h.dropped, h.forwarded⟩
  | refused error absent => exact h.refuse now _ error
  | stopped size => exact h.of_perm (.of_eq (everySession_stop e)) rfl
  | created absent known size => exact h.create now _ _
  | enqueued live => exact h.enqueue table live
  | swept live idle =>
    refine h.of_perm (everySession_evict table.unique live _) ?_
    rw [evict_eq live]; rfl
  | reported live same =>
    refine h.of_perm (everySession_evict table.unique live _) ?_
    rw [evict_eq live]; rfl
  | stepped live step =>
    exact h.step step (everySession_update table.unique live _) rfl
  | @drained index s s' input effect gone step =>
    exact h.step step (everySession_set gone s') rfl

theorem places (h : Accounted e) : (e.handled.map (·.2.withoutFlow)).Perm
    (e.refused.map Datagram.withoutFlow ++ (e.dropped.map Datagram.withoutFlow ++
      (e.waiting ++ (e.writing ++ (e.written ++ e.lost))))) := by
  have parts : e.accepted.Perm (e.waiting ++ (e.writing ++ (e.written ++ e.lost))) := by
    have each : e.accepted = e.everySession.flatMap fun s =>
        s.written ++ (s.writing ++ (s.waiting ++ s.lost)) :=
      List.flatMap_congr fun s hs => Session.accepted_eq (h.tracked s hs)
    rw [List.perm_iff_count, each]
    intro a
    have apart (f g : Session → List Datagram) :=
      (List.flatMap_append_perm e.everySession f g).count_eq a
    have first := apart Session.written fun s => s.writing ++ (s.waiting ++ s.lost)
    have second := apart Session.writing fun s => s.waiting ++ s.lost
    have third := apart Session.waiting Session.lost
    unfold Engine.waiting Engine.writing Engine.written Engine.lost
    simp only [List.count_append] at first second third ⊢
    omega
  have handled := h.handled
  rw [List.map_append, List.append_assoc] at handled
  exact handled.trans ((parts.append_left _).append_left _)

end Accounted

end Engine

namespace Relay

open Engine

theorem Reachable.accounted {l : Listener} {cores : UInt64} {memory : Nat} {began t : Instant}
    {start r : Relay} (started : l.start? cores memory began = some start)
    (reached : Reachable start t r) :
    Registered r.engine ∧ Accounted r.engine :=
  reached.registered_keeps (P := fun _ e => Accounted e) started (fun _ h => h)
    (fun m table h => h.move m table)
    fun _ => ⟨fun _ hs => absurd hs List.not_mem_nil, .refl _, rfl, rfl, rfl⟩

/-- Where the datagrams are that were read. -/
structure Conserved (r : Relay) : Prop where
  places : (r.received.map Datagram.withoutFlow).Perm
    (r.held.toList.map Datagram.withoutFlow ++ (r.ingest.items.map Datagram.withoutFlow ++
      (r.inHand.toList.map Datagram.withoutFlow ++ (r.engine.refused.map Datagram.withoutFlow ++
        (r.engine.dropped.map Datagram.withoutFlow ++ (r.engine.waiting ++ (r.engine.writing ++
          (r.engine.written ++ r.engine.lost))))))))
  received : r.engine.stats.received = UInt64.ofNat r.received.length
  refused : r.engine.stats.dialFailures = UInt64.ofNat r.engine.refused.length
  dropped : r.engine.stats.dropped = UInt64.ofNat r.engine.dropped.length
  written : r.engine.stats.forwarded = UInt64.ofNat r.engine.written.length
  sum : r.engine.stats.received =
    UInt64.ofNat r.held.toList.length + UInt64.ofNat r.ingest.items.length +
      UInt64.ofNat r.inHand.toList.length + r.engine.stats.dialFailures + r.engine.stats.dropped +
      UInt64.ofNat r.engine.waiting.length + UInt64.ofNat r.engine.writing.length +
      r.engine.stats.forwarded + UInt64.ofNat r.engine.lost.length
  once : ∀ d, r.engine.written.count d ≤ (r.received.map Datagram.withoutFlow).count d

theorem Reachable.conserved {l : Listener} {cores : UInt64} {memory : Nat} {began t : Instant}
    {start r : Relay} (started : l.start? cores memory began = some start)
    (reached : Reachable start t r) (running : r.engine.running = true) : r.Conserved := by
  obtain ⟨-, accounted⟩ := reached.accounted started
  have inOrder := reached.inOrder (inOrder_start started)
  have places : (r.received.map Datagram.withoutFlow).Perm
      (r.held.toList.map Datagram.withoutFlow ++ (r.ingest.items.map Datagram.withoutFlow ++
        (r.inHand.toList.map Datagram.withoutFlow ++ (r.engine.refused.map Datagram.withoutFlow ++
          (r.engine.dropped.map Datagram.withoutFlow ++ (r.engine.waiting ++ (r.engine.writing ++
            (r.engine.written ++ r.engine.lost)))))))) := by
    rw [List.perm_iff_count]
    intro a
    have handled := accounted.places.count_eq a
    rw [inOrder.kept running]
    simp only [List.map_append, List.map_map, Function.comp_def, List.count_append] at handled ⊢
    omega
  have length : r.received.length = r.held.toList.length + r.ingest.items.length +
      r.inHand.toList.length + r.engine.refused.length + r.engine.dropped.length +
      r.engine.waiting.length + r.engine.writing.length + r.engine.written.length +
      r.engine.lost.length := by
    have := places.length_eq
    simp only [List.length_append, List.length_map] at this
    omega
  refine ⟨places, inOrder.counted, accounted.refused, accounted.dropped, accounted.forwarded, ?_,
    fun d => ?_⟩
  · rw [inOrder.counted, length, accounted.refused, accounted.dropped, accounted.forwarded]
    simp only [UInt64.ofNat_add]
  · rw [places.count_eq]
    simp only [List.count_append]
    omega

/-- A relay with room for one datagram in each session and one on the way to the manager. -/
def narrowListener : Listener :=
  ⟨.v4 ⟨127, 0, 0, 1⟩ 7000, "example.net:53", { outboundQueue := 1, ingestPerCore := 1 }⟩

/-- Of nine datagrams, the first is written, and then one is dropped, lost with its forwarder,
refused, being written, waiting in its session, in the manager's hand, in the channel and held. -/
def mixedActions : List (Instant × Action) :=
  let a : Endpoint := .v4 ⟨10, 0, 0, 1⟩ 4001
  let b : Endpoint := .v4 ⟨10, 0, 0, 2⟩ 4001
  let free : Opening := ⟨.ok [.v4 ⟨192, 0, 2, 1⟩ 53], .ok ()⟩
  let forwarder (client : Endpoint) (input : ForwarderInput) : Action :=
    .engine (.task (.live client.text) (.forwarder input))
  [(.ofMillis 1, .receive ⟨a, [1]⟩), (.ofMillis 1, .take), (.ofMillis 1, .finish free),
   (.ofMillis 2, .receive ⟨a, [2]⟩), (.ofMillis 2, .take), (.ofMillis 2, .finish free),
   (.ofMillis 3, forwarder a .take),
   (.ofMillis 4, .receive ⟨a, [3]⟩), (.ofMillis 4, .take), (.ofMillis 4, .finish free),
   (.ofMillis 5, .receive ⟨b, [4]⟩), (.ofMillis 5, .take),
   (.ofMillis 5, .finish ⟨free.lookup, .error .networkUnreachable⟩),
   (.ofMillis 6, forwarder a .written), (.ofMillis 6, forwarder a .take),
   (.ofMillis 7, forwarder a .writeDeadline),
   (.ofMillis 8, .receive ⟨b, [5]⟩), (.ofMillis 8, .take), (.ofMillis 8, .finish free),
   (.ofMillis 8, forwarder b .take),
   (.ofMillis 9, .receive ⟨b, [6]⟩), (.ofMillis 9, .take), (.ofMillis 9, .finish free),
   (.ofMillis 10, .receive ⟨b, [7]⟩), (.ofMillis 10, .take),
   (.ofMillis 11, .receive ⟨b, [8]⟩), (.ofMillis 12, .receive ⟨b, [9]⟩)]

theorem conserved_mixed : ∃ start t r, narrowListener.start? 1 65536 .zero = some start ∧
    Reachable start t r ∧ r.engine.running = true ∧ r.Conserved ∧
    r.engine.written.length = 1 ∧ r.engine.lost.length = 1 ∧ r.engine.waiting.length = 1 ∧
    r.engine.writing.length = 1 ∧ r.inHand.isSome = true ∧ r.held.isSome = true := by
  obtain ⟨start, t, r, started, reached, shape⟩ :=
    exists_reachable narrowListener 1 65536 mixedActions
      (fun _ r => r.engine.running && r.engine.written.length == 1 &&
        r.engine.lost.length == 1 && r.engine.waiting.length == 1 &&
        r.engine.writing.length == 1 && r.inHand.isSome && r.held.isSome) (by decide +kernel)
  simp only [Bool.and_eq_true, beq_iff_eq] at shape
  obtain ⟨⟨⟨⟨⟨⟨running, written⟩, lost⟩, waiting⟩, writing⟩, inHand⟩, held⟩ := shape
  exact ⟨start, t, r, started, reached, running, reached.conserved started running, written, lost,
    waiting, writing, inHand, held⟩

/-- The datagrams that neither the manager nor a forwarder that is alive has in hand. -/
def atRest (r : Relay) : List Datagram :=
  r.held.toList ++ r.ingest.items ++ r.engine.refused ++ r.engine.dropped ++ r.engine.waiting ++
    r.engine.written ++ r.engine.lost

/-- The only datagram is in the manager's hand while it looks the target up, and later in that of
the forwarder. -/
theorem atRest_eq_nil_of_inHand :
    (∃ start t r, narrowListener.start? 1 65536 .zero = some start ∧ Reachable start t r ∧
      r.engine.running = true ∧ r.engine.stats.received = 1 ∧ r.atRest = [] ∧
      r.inHand.isSome = true) ∧
    ∃ start t r, narrowListener.start? 1 65536 .zero = some start ∧ Reachable start t r ∧
      r.engine.running = true ∧ r.engine.stats.received = 1 ∧ r.atRest = [] ∧
      r.engine.writing.length = 1 := by
  constructor
  · obtain ⟨start, t, r, started, reached, shape⟩ :=
      exists_reachable narrowListener 1 65536 (mixedActions.take 2)
        (fun _ r => r.engine.running && r.engine.stats.received == 1 && r.atRest == [] &&
          r.inHand.isSome) (by decide +kernel)
    simp only [Bool.and_eq_true, beq_iff_eq] at shape
    obtain ⟨⟨⟨running, received⟩, none_atRest⟩, inHand⟩ := shape
    exact ⟨start, t, r, started, reached, running, received, none_atRest, inHand⟩
  · let a : Endpoint := .v4 ⟨10, 0, 0, 1⟩ 4001
    obtain ⟨start, t, r, started, reached, shape⟩ :=
      exists_reachable narrowListener 1 65536 (mixedActions.take 3 ++
          [(.ofMillis 2, .engine (.task (.live a.text) (.forwarder .take)))])
        (fun _ r => r.engine.running && r.engine.stats.received == 1 && r.atRest == [] &&
          r.engine.writing.length == 1) (by decide +kernel)
    simp only [Bool.and_eq_true, beq_iff_eq] at shape
    obtain ⟨⟨⟨running, received⟩, none_atRest⟩, writing⟩ := shape
    exact ⟨start, t, r, started, reached, running, received, none_atRest, writing⟩

end Relay

end SocketRelay.Udp
