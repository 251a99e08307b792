import SocketRelay.Proofs.Udp.Moves

/-!
# From the listener to the manager

While the manager is there, the datagrams that were read are, in order, those
that it dealt with, the one in its hand, those in the channel and the one that
the read loop holds (`Relay.Reachable.inOrder`). Without a manager, what it dealt
with is still the beginning of what was read.
-/

namespace SocketRelay.Udp

open Net

namespace Engine

variable {e e' : Engine} {now : Instant}

/-- What a removal leaves alone. -/
theorem evict_frame {α : Type} (f : Engine → α)
    (unread : ∀ (e : Engine) (table : List (String × Session)) (removed : List Session)
      (evicted : UInt64) (log : List Event),
      f { e with table, removed, stats.evicted := evicted, log } = f e)
    (key : String) (reason : EvictionReason) : f (e.evict key reason) = f e := by
  unfold evict
  split
  · rfl
  · exact unread e ..

theorem sweep_frame {α : Type} (f : Engine → α)
    (unread : ∀ (e : Engine) (table : List (String × Session)) (removed : List Session)
      (evicted : UInt64) (log : List Event),
      f { e with table, removed, stats.evicted := evicted, log } = f e)
    (now : Instant) (order : List String) : f (e.sweep now order) = f e := by
  unfold sweep
  generalize e.idleKeys now order = keys
  induction keys generalizing e with
  | nil => rfl
  | cons k keys ih => rw [List.foldl_cons, ih, evict_frame f unread]

theorem handleReport_frame {α : Type} (f : Engine → α)
    (unread : ∀ (e : Engine) (table : List (String × Session)) (removed : List Session)
      (evicted : UInt64) (log : List Event),
      f { e with table, removed, stats.evicted := evicted, log } = f e)
    (r : Report) : f (e.handleReport r) = f e := by
  unfold handleReport
  split
  · split
    · exact evict_frame f unread ..
    · rfl
  · rfl

theorem stepTask_frame {α : Type} (f : Engine → α)
    (unread : ∀ (e : Engine) (table : List (String × Session)) (removed : List Session)
      (forwarded replied overflows : UInt64) (log : List Event) (delivered : List Delivery)
      (reports : Channel Report) (raised : List Raised),
      f { e with
          table, removed
          stats := { e.stats with forwarded, replied, overflows }
          log, delivered, reports, raised } = f e)
    {place : Place} {input : TaskInput} (h : e.stepTask now place input = some e') :
    f e' = f e := by
  have applied (e : Engine) (s : Session) (effect : Effect) : f (e.apply now s effect) = f e :=
    apply_frame f fun e => unread e e.table e.removed
  have moved (table : List (String × Session)) (removed : List Session) :
      f { e with table, removed } = f e :=
    unread e table removed e.stats.forwarded e.stats.replied e.stats.overflows e.log e.delivered
      e.reports e.raised
  obtain ⟨key, s, s', effect, -, -, rfl⟩ | ⟨index, s, s', effect, -, -, rfl⟩ := stepTask_cases h
  · exact (applied ..).trans (moved _ e.removed)
  · exact (applied ..).trans (moved e.table _)

section
variable {α : Type} (f : Engine → α)
  (unread : ∀ (e : Engine) (table : List (String × Session)) (removed : List Session)
    (evicted forwarded replied overflows : UInt64) (log : List Event) (delivered : List Delivery)
    (reports : Channel Report) (raised : List Raised),
    f { e with
        table, removed
        stats := { e.stats with evicted, forwarded, replied, overflows }
        log, delivered, reports, raised } = f e)
include unread

/-- What none but the read loop and the manager's handling of datagrams changes. -/
theorem act_frame {a : Action} (h : e.act now a = some e') : f e' = f e := by
  have removal (e : Engine) (table : List (String × Session)) (removed : List Session)
      (evicted : UInt64) (log : List Event) :
      f { e with table, removed, stats.evicted := evicted, log } = f e :=
    unread e table removed evicted e.stats.forwarded e.stats.replied e.stats.overflows log
      e.delivered e.reports e.raised
  cases a with
  | sweep order =>
    simp only [act] at h
    split at h
    · cases h; exact sweep_frame f removal now order
    · cases h
  | report =>
    simp only [act] at h
    split at h
    · obtain ⟨⟨r, reports⟩, -, rfl⟩ := Option.map_eq_some_iff.mp h
      have taken : f { e with reports } = f e :=
        unread e e.table e.removed e.stats.evicted e.stats.forwarded e.stats.replied
          e.stats.overflows e.log e.delivered reports e.raised
      exact (handleReport_frame f removal r).trans taken
    · cases h
  | query =>
    simp only [act] at h
    split at h
    · cases h; rfl
    · cases h
  | task place input =>
    exact stepTask_frame f (fun e table removed => unread e table removed e.stats.evicted) h

/-- The same for inputs, with reports from anywhere. -/
theorem handle_frame {i : Input} (other : ∀ now o d, i ≠ .datagram now o d) :
    f (e.handle i) = f e := by
  have removal (e : Engine) (table : List (String × Session)) (removed : List Session)
      (evicted : UInt64) (log : List Event) :
      f { e with table, removed, stats.evicted := evicted, log } = f e :=
    unread e table removed evicted e.stats.forwarded e.stats.replied e.stats.overflows log
      e.delivered e.reports e.raised
  cases i with
  | datagram now o d => exact absurd rfl (other now o d)
  | sweep now order =>
    simp only [handle]
    split
    · exact sweep_frame f removal now order
    · rfl
  | report r =>
    simp only [handle]
    split
    · exact handleReport_frame f removal r
    · rfl
  | query now => rfl
  | task now place input =>
    simp only [handle]
    cases step : e.stepTask now place input with
    | none => rfl
    | some e' =>
      exact stepTask_frame f (fun e table removed => unread e table removed e.stats.evicted) step

end

/-- The manager takes note of each datagram that it takes, unless it ends. -/
theorem handleDatagram_handled (e : Engine) (now : Instant) (o : Opening) (d : Datagram) :
    (e.handleDatagram now o d).stats.received = e.stats.received ∧
      ((e.handleDatagram now o d).handled = e.handled ++ [(now, d)] ∧
        (e.handleDatagram now o d).running = e.running ∨
      (e.handleDatagram now o d).handled = e.handled ∧
        (e.handleDatagram now o d).running = false) := by
  have received (e : Engine) (s : Session) :
      (e.enqueue now s d.source.text d).stats.received = e.stats.received :=
    enqueue_frame (·.stats.received) (by intros; rfl) _
  have running (e : Engine) (s : Session) :
      (e.enqueue now s d.source.text d).running = e.running :=
    enqueue_frame (·.running) (by intros; rfl) _
  obtain ⟨s, -, eq⟩ | ⟨-, ⟨error, eq⟩ | ⟨remote, -, ⟨error, eq⟩ | ⟨-, eq⟩ | ⟨-, s, -, eq⟩⟩⟩ :=
    e.handleDatagram_cases now o d
  · rw [eq, handled_enqueue]; exact ⟨received e s, .inl ⟨rfl, running e s⟩⟩
  · rw [eq]; exact ⟨rfl, .inl ⟨rfl, rfl⟩⟩
  · rw [eq]; exact ⟨rfl, .inl ⟨rfl, rfl⟩⟩
  · rw [eq]; exact ⟨rfl, .inr ⟨rfl, rfl⟩⟩
  · rw [eq, handled_enqueue]; exact ⟨received _ s, .inl ⟨rfl, running _ s⟩⟩

end Engine

namespace Relay

theorem isReading_iff {r : Relay} : r.isReading = true ↔ r.held = none ∧ r.result = none := by
  rw [isReading, Bool.and_eq_true, Option.isNone_iff_eq_none, Option.isNone_iff_eq_none]

/-- How what was read hangs together with what the manager dealt with. -/
structure InOrder (r : Relay) : Prop where
  counted : r.engine.stats.received = UInt64.ofNat r.received.length
  closed : r.ingest.closed = !r.engine.running
  kept : r.engine.running = true → r.received =
    r.engine.handled.map (·.2) ++ (r.inHand.toList ++ (r.ingest.items ++ r.held.toList))
  handled_isPrefix : r.engine.handled.map (·.2) <+: r.received

theorem inOrder_start {l : Listener} {cores : UInt64} {memory : Nat} {began : Instant}
    {start : Relay} (h : l.start? cores memory began = some start) : start.InOrder := by
  simp only [Listener.start?] at h
  split at h
  · cases h
    exact ⟨rfl, rfl, fun _ => rfl, List.nil_prefix⟩
  · cases h

namespace InOrder

variable {r r' : Relay} {now : Instant}

theorem fail (counted : r.engine.stats.received = UInt64.ofNat r.received.length)
    (closed : r.ingest.closed = !r.engine.running) (gone : r.ingest.closed = true)
    (handled_isPrefix : r.engine.handled.map (·.2) <+: r.received) : r.fail.InOrder := by
  refine ⟨counted, closed, fun running => ?_, handled_isPrefix⟩
  rw [gone, show r.engine.running = true from running] at closed
  cases closed

/-- Handing on a datagram that was read last. -/
theorem handOn {d : Datagram} (counted : r.engine.stats.received = UInt64.ofNat r.received.length)
    (closed : r.ingest.closed = !r.engine.running) (none_held : r.held = none)
    (kept : r.engine.running = true →
      r.received = r.engine.handled.map (·.2) ++ (r.inHand.toList ++ (r.ingest.items ++ [d])))
    (handled_isPrefix : r.engine.handled.map (·.2) <+: r.received) : (r.handOn d).InOrder := by
  obtain ⟨gone, offered⟩ | ⟨-, -, offered⟩ | ⟨-, -, offered⟩ := r.ingest.offer_cases d
  · simp only [Relay.handOn, offered]
    exact fail counted closed gone handled_isPrefix
  · simp only [Relay.handOn, offered]
    split
    · exact ⟨counted, closed, kept, handled_isPrefix⟩
    · exact ⟨counted, closed, kept, handled_isPrefix⟩
  · simp only [Relay.handOn, offered]
    refine ⟨counted, closed, fun running => ?_, handled_isPrefix⟩
    rw [none_held, Option.toList_none, List.append_nil]
    exact kept running

theorem receive (h : r.InOrder) (reading : r.isReading = true) (d : Datagram) :
    (r.receive d).InOrder := by
  obtain ⟨none_held, -⟩ := isReading_iff.mp reading
  refine handOn (r := r.note _) ?_ h.closed none_held ?_ ?_
  · show r.engine.stats.received + 1 = UInt64.ofNat (r.received ++ [_]).length
    rw [List.length_append, UInt64.ofNat_add, h.counted]
    rfl
  · intro running
    have kept := h.kept running
    rw [none_held, Option.toList_none, List.append_nil] at kept
    show r.received ++ [_] = _
    rw [kept, List.append_assoc, List.append_assoc]
    rfl
  · exact h.handled_isPrefix.trans (List.prefix_append ..)

theorem handOver (h : r.InOrder) {d : Datagram} (held : r.held = some d) {ingest : Channel Datagram}
    (taken : ingest = { r.ingest with items := r.ingest.items ++ [d] }) :
    { r with ingest, held := none }.InOrder := by
  subst taken
  refine ⟨h.counted, h.closed, fun running => ?_, h.handled_isPrefix⟩
  have kept := h.kept running
  rw [held] at kept
  simpa using kept

/-- The manager takes the datagram at the front of the channel. -/
theorem take (h : r.InOrder) (free : r.isFree = true) {d : Datagram}
    {ingest : Channel Datagram} (next : r.ingest.next? = some (d, ingest)) :
    { r with ingest, inHand := some d }.InOrder := by
  obtain ⟨items, rest⟩ := Channel.next?_eq_some next
  obtain ⟨-, none_inHand⟩ := isFree_iff.mp free
  refine ⟨h.counted, ?_, fun running => ?_, h.handled_isPrefix⟩
  · rw [rest]
    exact h.closed
  · have kept := h.kept running
    rw [none_inHand, items] at kept
    exact kept

/-- The manager has dealt with the datagram in its hand. -/
theorem finish (h : r.InOrder) (running : r.engine.running = true) {d : Datagram}
    (inHand : r.inHand = some d) (o : Opening) :
    { r with inHand := none, engine := r.engine.handleDatagram now o d }.follow.InOrder := by
  have kept := h.kept running
  rw [inHand, Option.toList_some] at kept
  obtain ⟨received, ⟨handled, still⟩ | ⟨handled, stopped⟩⟩ :=
    r.engine.handleDatagram_handled now o d
  · rw [running] at still
    rw [follow, if_pos still]
    refine ⟨received.trans h.counted, ?_, fun _ => ?_, ?_⟩
    · have closed := h.closed
      rw [running] at closed
      rw [still]
      exact closed
    · show r.received = (r.engine.handleDatagram now o d).handled.map (·.2) ++
        ([] ++ (r.ingest.items ++ r.held.toList))
      rw [handled, kept]
      simp
    · show (r.engine.handleDatagram now o d).handled.map (·.2) <+: r.received
      rw [handled, kept]
      simp
  · -- The manager ended with this datagram in its hand, and the channel goes with it.
    rw [follow, if_neg (by simp [stopped])]
    refine ⟨received.trans h.counted, ?_, fun on => ?_, ?_⟩
    · rw [stopped]; rfl
    · rw [stopped] at on; cases on
    · show (r.engine.handleDatagram now o d).handled.map (·.2) <+: r.received
      rw [handled]
      exact h.handled_isPrefix

theorem act (h : r.InOrder) {a : Action} (act : r.act now a = some r') : r'.InOrder := by
  cases a with
  | receive d =>
    simp only [Relay.act] at act
    split at act
    · next reading => cases act; exact h.receive reading d
    · cases act
  | readFailed cause =>
    simp only [Relay.act] at act
    split at act
    · cases act; exact ⟨h.counted, h.closed, h.kept, h.handled_isPrefix⟩
    · cases act
  | handOver =>
    simp only [Relay.act] at act
    split at act
    · cases act
    · next d held =>
      obtain ⟨gone, offered⟩ | ⟨-, -, offered⟩ | ⟨-, -, offered⟩ := r.ingest.offer_cases d
      · rw [offered] at act
        cases act
        exact fail h.counted h.closed gone h.handled_isPrefix
      · rw [offered] at act
        cases act
      · rw [offered] at act
        cases act
        exact h.handOver held rfl
  | take =>
    obtain ⟨free, d, ingest, next, rfl⟩ := act_take_eq_some act
    exact h.take free next
  | finish o =>
    obtain ⟨running, d, inHand, rfl⟩ := act_finish_eq_some act
    exact h.finish running inHand o
  | engine a =>
    obtain ⟨e', -, step, rfl⟩ := act_engine_eq_some act
    have handled : e'.handled = r.engine.handled :=
      Engine.act_frame (·.handled) (by intros; rfl) step
    have running : e'.running = r.engine.running :=
      Engine.act_frame (·.running) (by intros; rfl) step
    have received : e'.stats.received = r.engine.stats.received :=
      Engine.act_frame (·.stats.received) (by intros; rfl) step
    refine ⟨received.trans h.counted, ?_, ?_, ?_⟩
    · rw [running]; exact h.closed
    · rw [running, handled]; exact h.kept
    · rw [handled]; exact h.handled_isPrefix

end InOrder

theorem Reachable.inOrder {start r : Relay} {t : Instant} (reached : Reachable start t r)
    (first : start.InOrder) : r.InOrder := by
  induction reached with
  | start => exact first
  | step _ _ h ih => exact ih.act h

end Relay

end SocketRelay.Udp
