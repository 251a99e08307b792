import SocketRelay.Proofs.Udp.Idleness

/-!
# What the clocks of sessions tell

Every session in the table has a datagram of its client that was handled no
earlier than the clock of the session says (`Engine.Touched`). An input leaves the
clocks alone, or it is a datagram and the clock of its client's session is set to
the present (`Engine.keeps_handle`). So a sweep parts the clients that were silent
from those that were not (`Engine.sweep_cases`).
-/

namespace SocketRelay.Udp.Engine

open Net

variable {e e' : Engine} {now : Instant} {key : String} {s s' : Session} {i : Input}

/-- A datagram of the client was handled when the session's clock says, or later. -/
def HeardFrom (e : Engine) (s : Session) : Prop :=
  ∃ q ∈ e.handled, q.2.source.withoutFlow = s.client.withoutFlow ∧
    s.clock.origin.nanos + s.clock.lastMs.toNat * 1000000 ≤ q.1.nanos

theorem HeardFrom.of_more (h : e.HeardFrom s) (handled : ∀ q ∈ e.handled, q ∈ e'.handled)
    (client : s'.client = s.client) (clock : s'.clock = s.clock) : e'.HeardFrom s' := by
  obtain ⟨q, hq, same, ahead⟩ := h
  exact ⟨q, handled q hq, client ▸ same, clock ▸ ahead⟩

def Touched (e : Engine) : Prop := ∀ key s, e.session? key = some s → e.HeardFrom s

/-- The key has a session with the client and the clock of `s'`. -/
def Keeps (e : Engine) (key : String) (s' : Session) : Prop :=
  ∃ s, e.session? key = some s ∧ s'.client = s.client ∧ s'.clock = s.clock

theorem Keeps.of_session? (live : e.session? key = some s) : e.Keeps key s := ⟨s, live, rfl, rfl⟩

theorem session?_of_sweep {order : List String}
    (live : (e.sweep now order).session? key = some s) : e.session? key = some s := by
  rw [session?_sweep] at live
  split at live
  · cases live
  · exact live

theorem keeps_handleReport {r : Report} (live : (e.handleReport r).session? key = some s') :
    e.Keeps key s' := by
  unfold handleReport at live
  split at live
  · split at live
    · rw [session?_evict] at live
      split at live
      · cases live
      · exact .of_session? live
    · exact .of_session? live
  · exact .of_session? live

theorem keeps_stepTask {place : Place} {input : TaskInput}
    (h : e.stepTask now place input = some e') (live : e'.session? key = some s') :
    e.Keeps key s' := by
  obtain ⟨k, s, s₁, effect, before, step, rfl⟩ | ⟨index, s, s₁, effect, -, -, rfl⟩ :=
    stepTask_cases h
  · rw [apply_frame (·.session? key) (by intros; rfl), session?_update] at live
    obtain ⟨-, client, clock⟩ := stepSession_identity step
    split at live
    · next here =>
      rw [before, Option.map_some] at live
      cases live
      exact ⟨s, here ▸ before, client, clock⟩
    · exact .of_session? live
  · rw [apply_frame (·.session? key) (by intros; rfl)] at live
    exact .of_session? live

/-- What is not the handling of a datagram leaves the clocks alone. -/
theorem keeps_act {a : Action} (act : e.act now a = some e')
    (live : e'.session? key = some s') : e.Keeps key s' := by
  cases a with
  | sweep order =>
    simp only [Engine.act] at act
    split at act
    · cases act; exact .of_session? (session?_of_sweep live)
    · cases act
  | report =>
    simp only [Engine.act] at act
    split at act
    · obtain ⟨⟨x, reports⟩, -, rfl⟩ := Option.map_eq_some_iff.mp act
      exact keeps_handleReport (e := { e with reports }) live
    · cases act
  | query =>
    simp only [Engine.act] at act
    split at act
    · cases act; exact .of_session? live
    · cases act
  | task place input => exact keeps_stepTask act live

/-- A datagram of the session's client is handled now, and the clock is not ahead of it. -/
structure HeardNow (now : Instant) (d : Datagram) (e : Engine) (s : Session) : Prop where
  handled : (now, d) ∈ e.handled
  client : d.source.withoutFlow = s.client.withoutFlow
  ahead : s.clock.origin.nanos + s.clock.lastMs.toNat * 1000000 ≤ now.nanos

theorem HeardNow.heardFrom {d : Datagram} (h : HeardNow now d e s) : e.HeardFrom s :=
  ⟨(now, d), h.handled, h.client, h.ahead⟩

theorem HeardNow.enqueue {d : Datagram} (live : e.session? d.source.text = some s)
    (client : s.client.text = d.source.text) (began : s.clock.origin ≤ now)
    (here : (e.enqueue now s d.source.text d).session? key = some s') :
    (key ≠ d.source.text ∧ e.session? key = some s') ∨
      HeardNow now d (e.enqueue now s d.source.text d) s' := by
  rw [session?_enqueue live] at here
  split at here
  · cases here
    refine .inr ⟨?_, (Endpoint.text_eq_text_iff.mp client).symm, ActivityClock.touch_le began⟩
    rw [handled_enqueue]
    exact List.mem_append_right _ List.mem_cons_self
  · next other => exact .inl ⟨other, here⟩

/-- The datagram that the manager handles is the one that the clock of its session tells of. -/
theorem keeps_handleDatagram (table : Registered e) (timed : Timed now e) {o : Opening}
    {d : Datagram} (live : (e.handleDatagram now o d).session? key = some s') :
    e.Keeps key s' ∨ HeardNow now d (e.handleDatagram now o d) s' := by
  obtain ⟨s, before, eq⟩ | ⟨absent, ⟨error, eq⟩ | ⟨remote, -, ⟨error, eq⟩ | ⟨-, eq⟩ |
    ⟨size, s, before, eq⟩⟩⟩ := e.handleDatagram_cases now o d
  · rw [eq] at live ⊢
    have here := mem_table_of_session? before
    obtain ⟨-, other⟩ | heard :=
      HeardNow.enqueue before (table.named _ here).symm (timed.watched _ here).began live
    · exact .inl (.of_session? other)
    · exact .inr heard
  · rw [eq] at live; exact .inl (.of_session? live)
  · rw [eq] at live; exact .inl (.of_session? live)
  · rw [eq] at live; cases live
  · have created := session?_create (e := { e with resolved := some remote }) now remote absent
    cases before.symm.trans created
    rw [eq] at live ⊢
    obtain ⟨key, other⟩ | heard := HeardNow.enqueue before rfl (Nat.le_refl _) live
    · rw [session?_create_of_ne now remote key] at other
      exact .inl (.of_session? other)
    · exact .inr heard

/-- A session is one that was there, or its client was just heard from. -/
theorem keeps_handle (table : Registered e) (timed : Timed now e) (isAt : i.IsAt now)
    (live : (e.handle i).session? key = some s') :
    e.Keeps key s' ∨ ∃ d, HeardNow now d (e.handle i) s' := by
  cases i with
  | datagram t o d =>
    cases isAt
    simp only [handle] at live ⊢
    split at live
    · next running =>
      rw [if_pos running]
      exact (keeps_handleDatagram table timed live).imp_right fun heard => ⟨d, heard⟩
    · exact .inl (.of_session? live)
  | sweep t order =>
    simp only [handle] at live
    split at live
    · exact .inl (.of_session? (session?_of_sweep live))
    · exact .inl (.of_session? live)
  | report r =>
    simp only [handle] at live
    split at live
    · exact .inl (keeps_handleReport live)
    · exact .inl (.of_session? live)
  | query t => exact .inl (.of_session? live)
  | task t place input =>
    cases step : e.stepTask t place input with
    | none =>
      rw [handle, step] at live
      exact .inl (.of_session? live)
    | some e' =>
      rw [handle, step] at live
      exact .inl (keeps_stepTask step live)

theorem handled_move (m : Move now e e') : e.handled <+: e'.handled := by
  have same (kept : e'.handled = e.handled) : e.handled <+: e'.handled :=
    kept ▸ List.prefix_refl _
  cases m with
  | received | readFailed | stalled | resolved | stopped | created | reportTaken => exact same rfl
  | refused => exact List.prefix_append _ _
  | enqueued => rw [handled_enqueue]; exact List.prefix_append _ _
  | swept | reported => exact same (evict_frame (·.handled) (by intros; rfl) _ _)
  | stepped | drained => exact same (apply_frame (·.handled) (by intros; rfl))

theorem Moves.handled (moves : Moves now e e') : e.handled <+: e'.handled :=
  moves.keeps (P := fun e' => e.handled <+: e'.handled)
    (fun m before => before.trans (handled_move m)) (List.prefix_refl _)

namespace Touched

theorem of_keeps (h : Touched e) (moves : Moves now e e')
    (keeps : ∀ key s', e'.session? key = some s' → e.Keeps key s' ∨ e'.HeardFrom s') :
    Touched e' := by
  intro key s' live
  obtain ⟨s, before, client, clock⟩ | heard := keeps key s' live
  · exact (h key s before).of_more (fun _ hq => moves.handled.mem hq) client clock
  · exact heard

theorem act (h : Touched e) {a : Action} (act : e.act now a = some e') : Touched e' :=
  h.of_keeps (act_moves act) fun _ _ live => .inl (keeps_act act live)

theorem handleDatagram (h : Touched e) (table : Registered e) (timed : Timed now e) (o : Opening)
    (d : Datagram) : Touched (e.handleDatagram now o d) :=
  h.of_keeps (handleDatagram_moves e now o d) fun _ _ live =>
    (keeps_handleDatagram table timed live).imp_right HeardNow.heardFrom

end Touched

/-- The sweep removes a session whose client was silent, and keeps one whose client was not. -/
theorem sweep_cases (touched : Touched e) (timed : Timed now e) {order : List String}
    (all : order.Perm e.keys) (live : e.session? key = some s) :
    ((e.sweep now order).session? key = none ∧
      SilentAt e.handled s.client e.settings.idleTimeout now) ∨
    ((e.sweep now order).session? key = some s ∧
      ∃ q ∈ e.handled, q.2.source.withoutFlow = s.client.withoutFlow ∧
        now.nanos ≤ q.1.nanos + e.settings.idleTimeout.nanos) := by
  have watched : Watched now e s := timed.watched _ (mem_table_of_session? live)
  rw [session?_sweep]
  split
  · next idle =>
    have idle := Session.isIdle_iff.mp (isIdle_of_mem_idleKeys idle live)
    exact .inl ⟨rfl, watched.silentAt timed.handled_le (Nat.le_of_lt idle)⟩
  · next active =>
    have active := mt (mem_idleKeys all live now).mpr active
    have recent := ActivityClock.le_of_not_lt_idle (mt Session.isIdle_iff.mpr active)
    obtain ⟨q, hq, same, ahead⟩ := touched key s live
    exact .inr ⟨live, q, hq, same, Nat.le_trans recent (Nat.add_le_add_right ahead _)⟩

end SocketRelay.Udp.Engine
