import SocketRelay.Proofs.Udp.Clocks

/-!
# How long a silent client keeps its session

A manager that goes through its table at least once in every `period` holds no
session whose client has been silent for longer than the idle timeout and that
period together, whatever datagrams, reports, queries and task steps come in
between (`Engine.SweptRun.bounds`). The bound is reached: a sweep keeps a session
whose client was silent for just the idle timeout (`Engine.bounds_reached`).

What carries the bound from one sweep to the next is `Engine.FreshAt`, which
speaks of the time of the last sweep and not of the present: a sweep leaves the
clients that were heard from within the idle timeout before it, and a client of
which the manager handles a datagram later is heard from after it.
-/

namespace SocketRelay.Udp.Engine

open Net

variable {e : Engine} {target : String} {settings : Settings} {period : Duration}
  {began swept t now : Instant} {i : Input}

/-! ## Runs with sweeps -/

/-- Whether an input can come at `now`. A sweep takes a manager that is there, and goes through the
whole table. -/
def Input.Comes (e : Engine) (now : Instant) : Input → Prop
  | .sweep t order => t = now ∧ e.running = true ∧ order.Perm e.keys
  | i => i.IsAt now

theorem Input.Comes.isAt (comes : i.Comes e now) : i.IsAt now := by
  cases i with
  | sweep => exact comes.1
  | datagram | report | query | task => exact comes

/-- When the last sweep was, after this input. -/
def Input.lastSweep (swept : Instant) : Input → Instant
  | .sweep now _ => now
  | _ => swept

/-- The states of an engine that is swept at least once in every `period`, each with the time of
the last sweep, or of the start before the first one, and with the time it is. A query lets time
pass and nothing else. -/
inductive SweptRun (target : String) (settings : Settings) (period : Duration) (began : Instant) :
    Instant → Instant → Engine → Prop where
  | start : SweptRun target settings period began began began (start target settings began)
  | step {swept t now : Instant} {e : Engine} {i : Input}
    (before : SweptRun target settings period began swept t e) (later : t ≤ now)
    (within : now.nanos ≤ swept.nanos + period.nanos) (comes : i.Comes e now) :
    SweptRun target settings period began (i.lastSweep swept) now (e.handle i)

/-! ## From one sweep to the next -/

/-- Each session has a datagram of its client that is no older at `swept` than the idle timeout. -/
def FreshAt (swept : Instant) (e : Engine) : Prop :=
  ∀ key s, e.session? key = some s → ∃ q ∈ e.handled,
    q.2.source.withoutFlow = s.client.withoutFlow ∧
      swept.nanos ≤ q.1.nanos + e.settings.idleTimeout.nanos

namespace FreshAt

/-- Between sweeps. -/
theorem handle (h : FreshAt swept e) (table : Registered e) (timed : Timed now e)
    (ahead : swept ≤ now) (isAt : i.IsAt now) : FreshAt swept (e.handle i) := by
  have moves := e.handle_moves_at isAt
  intro key s' live
  obtain ⟨s, before, client, -⟩ | ⟨d, heard⟩ := keeps_handle table timed isAt live
  · obtain ⟨q, mem, source, recent⟩ := h key s before
    exact ⟨q, moves.handled.mem mem, client ▸ source, moves.settings ▸ recent⟩
  · exact ⟨(now, d), heard.handled, heard.client, Nat.le_trans ahead (Nat.le_add_right _ _)⟩

/-- A sweep keeps only sessions of clients that were heard from. -/
theorem sweep (touched : Touched e) (timed : Timed now e) {order : List String}
    (all : order.Perm e.keys) : FreshAt now (e.sweep now order) := by
  have moves := e.sweep_moves now order
  intro key s live
  obtain ⟨gone, -⟩ | ⟨-, q, mem, source, recent⟩ :=
    sweep_cases touched timed all (session?_of_sweep live)
  · cases gone.symm.trans live
  · exact ⟨q, moves.handled.mem mem, source, moves.settings ▸ recent⟩

end FreshAt

/-! ## The bound -/

/-- What every state of a run with sweeps has. -/
structure Swept (settings : Settings) (period : Duration) (swept now : Instant) (e : Engine) :
    Prop where
  table : Registered e
  timed : Timed now e
  touched : Touched e
  settings_eq : e.settings = settings
  ahead : swept ≤ now
  within : now.nanos ≤ swept.nanos + period.nanos
  fresh : FreshAt swept e

theorem Swept.start (target : String) (settings : Settings) (period : Duration) (began : Instant) :
    Swept settings period began began (start target settings began) where
  table := registered_start target settings began
  timed := ⟨fun _ hp => absurd hp List.not_mem_nil, fun _ hq => absurd hq List.not_mem_nil⟩
  touched := fun _ _ live => nomatch live
  settings_eq := rfl
  ahead := Nat.le_refl _
  within := Nat.le_add_right _ _
  fresh := fun _ _ live => nomatch live

theorem Swept.step (h : Swept settings period swept t e) (later : t ≤ now)
    (within : now.nanos ≤ swept.nanos + period.nanos) (comes : i.Comes e now) :
    Swept settings period (i.lastSweep swept) now (e.handle i) := by
  have isAt := comes.isAt
  have timed := h.timed.later later
  have ahead : swept ≤ now := Nat.le_trans h.ahead later
  have moves := e.handle_moves_at isAt
  have kept : Registered (e.handle i) ∧ Timed now (e.handle i) :=
    moves.keeps (P := fun e => Registered e ∧ Timed now e)
      (fun m h => ⟨h.1.move m, h.2.move m h.1⟩) ⟨h.table, timed⟩
  have touched : Touched (e.handle i) := h.touched.of_keeps moves fun key s' live =>
    (keeps_handle h.table timed isAt live).imp_right fun ⟨_, heard⟩ => heard.heardFrom
  have last : i.lastSweep swept ≤ now ∧
      now.nanos ≤ (i.lastSweep swept).nanos + period.nanos ∧
      FreshAt (i.lastSweep swept) (e.handle i) := by
    cases i with
    | sweep t order =>
      obtain ⟨rfl, running, all⟩ := comes
      refine ⟨Nat.le_refl _, Nat.le_add_right _ _, ?_⟩
      rw [Engine.handle, if_pos running]
      exact FreshAt.sweep h.touched timed all
    | datagram | report | query | task =>
      exact ⟨ahead, within, h.fresh.handle h.table timed ahead isAt⟩
  obtain ⟨ahead, within, fresh⟩ := last
  exact ⟨kept.1, kept.2, touched, moves.settings.trans h.settings_eq, ahead, within, fresh⟩

theorem SweptRun.invariant (run : SweptRun target settings period began swept now e) :
    Swept settings period swept now e := by
  induction run with
  | start => exact .start target settings period began
  | step before later within comes ih => exact ih.step later within comes

/-- No client of a session in the table was last heard from longer ago than the idle timeout and the
period together. -/
theorem SweptRun.bounds (run : SweptRun target settings period began swept now e) :
    ∀ p ∈ e.table, ∃ q ∈ e.handled, q.2.source.withoutFlow = p.2.client.withoutFlow ∧
      now.nanos ≤ q.1.nanos + settings.idleTimeout.nanos + period.nanos := by
  have h := run.invariant
  intro p mem
  obtain ⟨q, handled, source, recent⟩ := h.fresh p.1 p.2 (session?_of_mem_table h.table.unique mem)
  rw [h.settings_eq] at recent
  refine ⟨q, handled, source, ?_⟩
  have within := h.within
  omega

/-- A session survives the sweep that comes after just the idle timeout, and is still there when its
client has been silent for as long as the bound allows. -/
theorem bounds_reached : ∃ swept now e,
    SweptRun "example.net:53" {} (.ofMillis 61000) .zero swept now e ∧
    (∀ q ∈ e.handled, now.nanos =
      q.1.nanos + ({} : Settings).idleTimeout.nanos + (Duration.ofMillis 61000).nanos) ∧
    e.keys = ["10.0.0.1:4001"] ∧
    ∀ p ∈ e.table, ∃ q ∈ e.handled, q.2.source.withoutFlow = p.2.client.withoutFlow ∧
      now.nanos ≤
        q.1.nanos + ({} : Settings).idleTimeout.nanos + (Duration.ofMillis 61000).nanos := by
  have opened : SweptRun "example.net:53" {} (.ofMillis 61000) .zero .zero (.ofMillis 1000) _ :=
    .step (i := .datagram (.ofMillis 1000) ⟨.ok [.v4 ⟨192, 0, 2, 1⟩ 53], .ok ()⟩
      ⟨.v4 ⟨10, 0, 0, 1⟩ 4001, [1]⟩) .start (by decide) (by decide) rfl
  have kept : SweptRun "example.net:53" {} (.ofMillis 61000) .zero (.ofMillis 61000)
      (.ofMillis 61000) _ :=
    opened.step (i := .sweep (.ofMillis 61000) ["10.0.0.1:4001"]) (by decide) (by decide)
      ⟨rfl, by decide +kernel, by decide +kernel⟩
  have waited : SweptRun "example.net:53" {} (.ofMillis 61000) .zero (.ofMillis 61000)
      (.ofMillis 122000) _ :=
    kept.step (i := .query (.ofMillis 122000)) (by decide) (by decide) rfl
  exact ⟨_, _, _, waited, by decide +kernel, by decide +kernel, waited.bounds⟩

end SocketRelay.Udp.Engine
