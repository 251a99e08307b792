import SocketRelay.Proofs.Udp.Clocks
import SocketRelay.Proofs.Udp.FailureNotice

/-!
# What the sweep makes of a lost report

A report that finds the channel full is lost, and its session stays in the table
with a task that has ended. What is left is the sweep, which goes by the clock of
the session. The manager touches that clock for every datagram of the client,
also for one that the session cannot take any more. So a client that falls
silent is rid of its dead session, and a client that goes on keeps it
(`Relay.Reachable.sweep_lost`, `Relay.sweep_keeps_dead`).
-/

namespace SocketRelay.Udp

open Net

namespace Engine

/-- A task of the session gave up at `failed`, and its report found the channel full. -/
structure LostReport (e : Engine) (key : String) (s : Session) (failed : Instant) : Prop where
  live : e.session? key = some s
  lost : ∃ x ∈ s.reports, ⟨failed, x, .full⟩ ∈ e.raised

instance (e : Engine) (key : String) (s : Session) (failed : Instant) :
    Decidable (e.LostReport key s failed) :=
  decidable_of_iff (e.session? key = some s ∧ ∃ x ∈ s.reports, ⟨failed, x, .full⟩ ∈ e.raised)
    ⟨fun h => ⟨h.1, h.2⟩, fun h => ⟨h.live, h.lost⟩⟩

end Engine

namespace Relay

open Engine

theorem Reachable.touched {l : Listener} {cores : UInt64} {memory : Nat} {began t : Instant}
    {start r : Relay} (started : l.start? cores memory began = some start)
    (reached : Reachable start t r) :
    Touched r.engine := by
  induction reached with
  | start t =>
    rw [Listener.engine_of_start? started]
    exact fun _ _ live => nomatch live
  | step before later act ih =>
    obtain ⟨table, -⟩ := before.reported started
    have timed := (before.timed started).later later
    obtain ⟨stats, more, same⟩ | ⟨-, o, d, same⟩ | ⟨a, -, step⟩ := act_cases act
    · rw [same]
      exact fun key s live => (ih key s live).of_more (fun _ hq => hq) rfl rfl
    · rw [same]; exact ih.handleDatagram table timed o d
    · exact ih.act step

/-- The sweep finds the session of a lost report if the client has sent nothing since, and misses
it as long as the client goes on. -/
theorem Reachable.sweep_lost {l : Listener} {cores : UInt64} {memory : Nat}
    {began t now failed : Instant} {start r r' : Relay}
    (started : l.start? cores memory began = some start) (reached : Reachable start t r)
    (later : t ≤ now) {order : List String} (swept : r.act now (.engine (.sweep order)) = some r')
    {key : String} {s : Session} (lost : r.engine.LostReport key s failed)
    (old : failed.nanos + r.engine.settings.idleTimeout.nanos < now.nanos) :
    (r'.engine.session? key = none ∧
      SilentAt r.engine.handled s.client r.engine.settings.idleTimeout now) ∨
    (r'.engine.session? key = some s ∧
      ∃ q ∈ r.engine.handled, q.2.source.withoutFlow = s.client.withoutFlow ∧
        failed.nanos < q.1.nanos ∧
        now.nanos ≤ q.1.nanos + r.engine.settings.idleTimeout.nanos) := by
  obtain ⟨e', -, sweep, rfl⟩ := act_engine_eq_some swept
  simp only [Engine.act] at sweep
  split at sweep
  · next ready =>
    cases sweep
    obtain ⟨gone, silent⟩ | ⟨kept, q, hq, same, recent⟩ :=
      sweep_cases (reached.touched started) ((reached.timed started).later later) ready.2 lost.live
    · exact .inl ⟨gone, silent⟩
    · exact .inr ⟨kept, q, hq, same, by omega, recent⟩
  · cases sweep

/-- Of two reports the manager takes the one that found room. Then nobody sends anything. -/
def lostReportActions : List (Instant × Action) :=
  unwritableActions ++ [(.ofMillis 2, .engine .report)]

theorem sweep_finds_silent : ∃ start t r r' key s failed,
    hastyListener.start? 1 65536 .zero = some start ∧ Reachable start t r ∧
    r.act t (.engine (.sweep r.engine.keys)) = some r' ∧ r.engine.LostReport key s failed ∧
    failed.nanos + r.engine.settings.idleTimeout.nanos < t.nanos ∧
    r'.engine.session? key = none := by
  obtain ⟨start, t, r, started, reached, shape⟩ :=
    exists_reachable hastyListener 1 65536
      (lostReportActions ++ [(.ofMillis 63000, .engine .query)])
      (fun t r => (r.act t (.engine (.sweep r.engine.keys))).any fun (r' : Relay) =>
        r.engine.table.any fun p => r.engine.raised.any fun y =>
          decide (r.engine.LostReport p.1 p.2 y.time ∧
            y.time.nanos + r.engine.settings.idleTimeout.nanos < t.nanos ∧
            r'.engine.session? p.1 = none)) (by decide +kernel)
  obtain ⟨r', act, shape⟩ := (Option.any_eq_true _ _).mp shape
  obtain ⟨⟨key, s⟩, -, shape⟩ := List.any_eq_true.mp shape
  obtain ⟨y, -, shape⟩ := List.any_eq_true.mp shape
  obtain ⟨lost, old, gone⟩ := of_decide_eq_true shape
  refine ⟨start, t, r, r', key, s, y.time, started, reached, act, lost, old, ?_⟩
  obtain ⟨gone, -⟩ | ⟨kept, -⟩ := reached.sweep_lost started (Nat.le_refl _) act lost old
  · exact gone
  · rw [gone] at kept; cases kept

/-- The client of the lost report sends a datagram every now and then. The session drops it, and
survives the sweep that comes more than the idle timeout after its forwarder ended. -/
theorem sweep_keeps_dead : ∃ start t r r' key s failed,
    hastyListener.start? 1 65536 .zero = some start ∧ Reachable start t r ∧
    r.act t (.engine (.sweep r.engine.keys)) = some r' ∧ r.engine.LostReport key s failed ∧
    failed.nanos + r.engine.settings.idleTimeout.nanos < t.nanos ∧
    r.engine.dropped.length = 1 ∧ r'.engine.session? key = some s := by
  obtain ⟨start, t, r, started, reached, shape⟩ :=
    exists_reachable hastyListener 1 65536 (lostReportActions ++
        [(.ofMillis 40000, .receive ⟨.v4 ⟨10, 0, 0, 2⟩ 4001, [3]⟩),
         (.ofMillis 40000, .take), (.ofMillis 40000, .finish ⟨.error (.other "unused"), .ok ()⟩),
         (.ofMillis 63000, .engine .query)])
      (fun t r => (r.act t (.engine (.sweep r.engine.keys))).any fun (r' : Relay) =>
        r.engine.table.any fun p => r.engine.raised.any fun y =>
          decide (r.engine.LostReport p.1 p.2 y.time ∧
            y.time.nanos + r.engine.settings.idleTimeout.nanos < t.nanos ∧
            r.engine.dropped.length = 1 ∧ r'.engine.session? p.1 = some p.2))
      (by decide +kernel)
  obtain ⟨r', act, shape⟩ := (Option.any_eq_true _ _).mp shape
  obtain ⟨⟨key, s⟩, -, shape⟩ := List.any_eq_true.mp shape
  obtain ⟨y, -, shape⟩ := List.any_eq_true.mp shape
  exact ⟨start, t, r, r', key, s, y.time, started, reached, act, of_decide_eq_true shape⟩

end Relay

end SocketRelay.Udp
