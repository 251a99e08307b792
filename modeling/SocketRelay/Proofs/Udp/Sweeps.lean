import SocketRelay.Proofs.Udp.LostReports

/-!
# What a sweep does

A sweep takes the idle sessions out of the table, leaves the others as they are,
and counts and logs each removal (`Engine.sweep_eq`). The order in which it goes
through the table shows in the order of the events only. Idle is what the clock
of a session measures, which is the silence of the client up to a millisecond
(`ActivityClock.TouchedAt`).
-/

namespace SocketRelay.Udp

open Net

namespace ActivityClock

variable {c : ActivityClock} {t : Instant}

/-- The clock was last touched at `t`: touching it again at that time would change nothing. -/
structure TouchedAt (c : ActivityClock) (t : Instant) : Prop where
  began : c.origin ≤ t
  touched : c.touch t = c

theorem TouchedAt.lastMs (h : c.TouchedAt t) :
    c.lastMs.toNat = (t.nanos - c.origin.nanos) / 1000000 := by
  rw [← lastMs_touch, h.touched]

theorem touchedAt_of_lastMs (began : c.origin ≤ t)
    (lastMs : c.lastMs.toNat = (t.nanos - c.origin.nanos) / 1000000) : c.TouchedAt t := by
  refine ⟨began, ?_⟩
  have same : (c.touch t).lastMs = c.lastMs :=
    UInt64.toNat_inj.mp ((c.lastMs_touch t).trans lastMs.symm)
  exact congrArg (ActivityClock.mk c.origin) same

/-- The clock measures the silence since then, and less than a millisecond more. -/
theorem TouchedAt.idle_bounds (h : c.TouchedAt t) (now : Instant) :
    now.since t ≤ c.idle now ∧ (c.idle now).nanos < (now.since t).nanos + 1000000 := by
  have began : c.origin.nanos ≤ t.nanos := h.began
  rw [Duration.le_iff, idle_nanos, h.lastMs, Instant.since]
  constructor
  · dsimp only
    omega
  · dsimp only
    omega

end ActivityClock

namespace Engine

variable {e e' : Engine} {now : Instant} {order : List String} {key : String} {s : Session}

/-! ## Removals in a row -/

/-- What becomes of an engine when the sessions of some keys are removed. -/
theorem evictAll_eq {keys : List String} (distinct : keys.Nodup) (reason : EvictionReason) :
    keys.foldl (fun e key => e.evict key reason) e =
      { e with
        table := e.table.filter (·.1 ∉ keys)
        removed := e.removed ++ keys.filterMap e.session?
        stats.evicted := e.stats.evicted + .ofNat (keys.filterMap e.session?).length
        log := e.log ++
          (keys.filterMap e.session?).map fun s => .sessionEvicted s.client reason } := by
  induction keys generalizing e with
  | nil => simp
  | cons k keys ih =>
    obtain ⟨fresh, distinct⟩ := List.nodup_cons.mp distinct
    rw [List.foldl_cons, ih distinct]
    have table : (e.table.filter (·.1 ≠ k)).filter (·.1 ∉ keys) =
        e.table.filter (·.1 ∉ k :: keys) := by
      rw [List.filter_filter]
      exact List.filter_congr fun p _ => by simp [Bool.and_comm]
    cases live : e.session? k with
    | none =>
      have gone : e.evict k reason = e := by simp only [evict, live]
      have nothing : e.table.filter (·.1 ≠ k) = e.table := List.filter_eq_self.mpr fun p hp =>
        decide_eq_true fun here =>
          notMem_keys_of_session? live (here ▸ List.mem_map_of_mem (f := (·.1)) hp)
      rw [gone, List.filterMap_cons_none live, ← table, nothing]
    | some s =>
      have sessions : keys.filterMap (e.evict k reason).session? = keys.filterMap e.session? :=
        List.filterMap_congr fun k' hk' => by
          rw [session?_evict, if_neg fun here : k' = k => fresh (here ▸ hk')]
      have evicted (n : Nat) :
          e.stats.evicted + 1 + .ofNat n = e.stats.evicted + .ofNat (n + 1) := by
        rw [UInt64.ofNat_add, UInt64.add_comm (.ofNat n), ← UInt64.add_assoc]
        rfl
      rw [sessions, List.filterMap_cons_some live, evict_eq live]
      simp only [record, table, List.append_assoc, List.singleton_append, List.length_cons,
        List.map_cons, evicted]

/-- The sessions that have been silent for too long, by the table. -/
def idleSessions (e : Engine) (now : Instant) : List Session :=
  (e.table.filter (·.2.isIdle e.settings.idleTimeout now)).map (·.2)

/-- The sessions that a sweep removes, in the order in which it goes through the table. -/
def swept (e : Engine) (now : Instant) (order : List String) : List Session :=
  (e.idleKeys now order).filterMap e.session?

theorem swept_perm (unique : e.keys.Nodup) (all : order.Perm e.keys) (now : Instant) :
    (e.swept now order).Perm (e.idleSessions now) := by
  have own : ∀ p ∈ e.table, e.session? p.1 = some p.2 := fun _ hp => session?_of_mem_table unique hp
  have idle : (e.table.filter fun p =>
      (e.session? p.1).any (·.isIdle e.settings.idleTimeout now)) =
      e.table.filter (·.2.isIdle e.settings.idleTimeout now) :=
    List.filter_congr fun p hp => by rw [own p hp, Option.any_some]
  have table : e.swept now e.keys = e.idleSessions now := by
    unfold swept idleKeys keys
    rw [List.filter_map, List.filterMap_map]
    unfold idleSessions
    rw [← idle, ← List.filterMap_eq_map]
    exact List.filterMap_congr fun p hp => own p (List.mem_of_mem_filter hp)
  rw [← table]
  exact (all.filter _).filterMap _

theorem sweep_eq (unique : e.keys.Nodup) (all : order.Perm e.keys) (now : Instant) :
    e.sweep now order =
      { e with
        table := e.table.filter (!·.2.isIdle e.settings.idleTimeout now)
        removed := e.removed ++ e.swept now order
        stats.evicted := e.stats.evicted + .ofNat (e.idleSessions now).length
        log := e.log ++ (e.swept now order).map fun s => .sessionEvicted s.client .idle } := by
  have distinct : (e.idleKeys now order).Nodup := (all.nodup_iff.mpr unique).filter _
  have table : e.table.filter (·.1 ∉ e.idleKeys now order) =
      e.table.filter (!·.2.isIdle e.settings.idleTimeout now) := by
    refine List.filter_congr fun p hp => ?_
    have idle := mem_idleKeys all (session?_of_mem_table unique hp) now
    simp only [idle, decide_not, Bool.decide_eq_true]
  have evicted := evictAll_eq (e := e) distinct .idle
  rw [table] at evicted
  rw [← (swept_perm unique all now).length_eq]
  exact evicted

/-! ## Idle sessions -/

/-- The table has one session for each client, under the text of the client's address. -/
structure Keyed (e : Engine) : Prop where
  unique : e.keys.Nodup
  named : ∀ p ∈ e.table, p.1 = p.2.client.text

/-- What a sweep makes of an engine, in any order. -/
structure SweepsIdle (now : Instant) (e e' : Engine) : Prop where
  removed : ∀ key s t, e.session? key = some s → s.clock.TouchedAt t →
    e.settings.idleTimeout < now.since t → e'.session? key = none
  kept : ∀ key s t, e.session? key = some s → s.clock.TouchedAt t →
    (now.since t).nanos + 1000000 ≤ e.settings.idleTimeout.nanos → e'.session? key = some s
  measured : ∀ key s t, e.session? key = some s → s.clock.TouchedAt t →
    now.since t ≤ s.clock.idle now ∧ (s.clock.idle now).nanos < (now.since t).nanos + 1000000
  /-- What is kept is unchanged. -/
  table : e'.table = e.table.filter (!·.2.isIdle e.settings.idleTimeout now)
  counted : e'.stats =
    { e.stats with evicted := e.stats.evicted + .ofNat (e.idleSessions now).length }
  /-- Each session that goes has one event, and no two of them are one client's. -/
  logged : ∃ gone, gone.Perm (e.idleSessions now) ∧ (gone.map (·.client)).Nodup ∧
    e'.removed = e.removed ++ gone ∧
    e'.log = e.log ++ gone.map fun s => .sessionEvicted s.client .idle
  rest : e' = { e with table := e'.table, removed := e'.removed, stats := e'.stats, log := e'.log }

theorem Keyed.clients_nodup (h : Keyed e) (now : Instant) :
    ((e.idleSessions now).map (·.client)).Nodup := by
  have texts : ((e.idleSessions now).map (·.client)).map Endpoint.text =
      (e.table.filter (·.2.isIdle e.settings.idleTimeout now)).map (·.1) := by
    rw [idleSessions, List.map_map, List.map_map]
    exact List.map_congr_left fun p hp => (h.named p (List.mem_of_mem_filter hp)).symm
  refine .of_map Endpoint.text (texts ▸ ?_)
  exact (List.filter_sublist.map _).nodup h.unique

theorem sweepsIdle_sweep (h : Keyed e) (now : Instant) (all : order.Perm e.keys) :
    SweepsIdle now e (e.sweep now order) := by
  have swept := sweep_eq h.unique all now
  have clients : ((e.swept now order).map (·.client)).Nodup :=
    ((swept_perm h.unique all now).map _).nodup_iff.mpr (h.clients_nodup now)
  refine ⟨fun key s t live touched long => ?_, fun key s t live touched short => ?_,
    fun _ s t _ touched => touched.idle_bounds now, by rw [swept], by rw [swept],
    ⟨e.swept now order, swept_perm h.unique all now, clients, by rw [swept], by rw [swept]⟩,
    by rw [swept]⟩
  · obtain ⟨atLeast, -⟩ := touched.idle_bounds now
    have idle := Session.isIdle_iff.mpr (Nat.lt_of_lt_of_le long atLeast)
    rw [session?_sweep, if_pos ((mem_idleKeys all live now).mpr idle)]
  · obtain ⟨-, below⟩ := touched.idle_bounds now
    have active : ¬ s.isIdle e.settings.idleTimeout now = true := fun idle =>
      Nat.lt_asymm (Session.isIdle_iff.mp idle) (Nat.lt_of_lt_of_le below short)
    rw [session?_sweep, if_neg (mt (mem_idleKeys all live now).mp active), live]

/-- Two sweeps of one table leave the same table and the same counters. Their events are the same
but for the order. -/
theorem sweep_order {other : List String} (h : Keyed e) (now : Instant) (all : order.Perm e.keys)
    (all' : other.Perm e.keys) :
    (e.sweep now other).table = (e.sweep now order).table ∧
      (e.sweep now other).stats = (e.sweep now order).stats ∧
      (e.sweep now other).log.Perm (e.sweep now order).log := by
  rw [sweep_eq h.unique all, sweep_eq h.unique all']
  have gone := (swept_perm h.unique all' now).trans (swept_perm h.unique all now).symm
  exact ⟨rfl, rfl, (gone.map _).append_left _⟩

/-! ## Clocks in a relay -/

/-- The clock of a session was last touched at the time of its client's latest datagram. -/
structure TouchedLast (e : Engine) (s : Session) : Prop where
  heard : ∃ q ∈ e.handled, q.2.source.withoutFlow = s.client.withoutFlow
  latest : ∀ q ∈ e.handled, q.2.source.withoutFlow = s.client.withoutFlow →
    (∀ p ∈ e.handled, p.2.source.withoutFlow = s.client.withoutFlow → p.1 ≤ q.1) →
    s.clock.TouchedAt q.1

theorem HeardFrom.touchedLast (heard : e.HeardFrom s) (watched : Watched now e s) :
    TouchedLast e s := by
  obtain ⟨p, hp, own, ahead⟩ := heard
  refine ⟨⟨p, hp, own⟩, fun q hq same latest => ?_⟩
  have after : p.1.nanos ≤ q.1.nanos := latest p hp own
  have before := watched.heard q hq same
  refine ActivityClock.touchedAt_of_lastMs ?_ ?_
  · rw [Instant.le_iff]
    omega
  · omega

end Engine

namespace Relay

open Engine

/-- A sweep removes the sessions that are idle and nothing else, whatever the table, the order and
the time. In a relay, a clock tells of the latest datagram of its client. -/
theorem sweep_removesIdle :
    (∀ e : Engine, Keyed e → ∀ now order, order.Perm e.keys →
      SweepsIdle now e (e.sweep now order) ∧ ∀ other, other.Perm e.keys →
        (e.sweep now other).table = (e.sweep now order).table ∧
        (e.sweep now other).stats = (e.sweep now order).stats ∧
        (e.sweep now other).log.Perm (e.sweep now order).log) ∧
    ∀ {l : Listener} {cores : UInt64} {memory : Nat} {began t : Instant} {start r : Relay},
      l.start? cores memory began = some start → Reachable start t r →
        Keyed r.engine ∧ ∀ key s, r.engine.session? key = some s → TouchedLast r.engine s := by
  refine ⟨fun e keyed now order all =>
    ⟨sweepsIdle_sweep keyed now all, fun _ all' => sweep_order keyed now all all'⟩,
    fun started reached => ?_⟩
  have table : Registered _ := (reached.reported started).1
  have timed := reached.timed started
  refine ⟨⟨table.unique, table.named⟩, fun key s live => ?_⟩
  exact (reached.touched started key s live).touchedLast
    (timed.watched _ (mem_table_of_session? live))

def pairActions : List (Instant × Action) :=
  let a : Endpoint := .v4 ⟨10, 0, 0, 1⟩ 4001
  let b : Endpoint := .v4 ⟨10, 0, 0, 2⟩ 4001
  let free : Opening := ⟨.ok [.v4 ⟨192, 0, 2, 1⟩ 53], .ok ()⟩
  [(.ofMillis 1000, .receive ⟨a, [1]⟩), (.ofMillis 1000, .take), (.ofMillis 1000, .finish free),
   (.ofMillis 2000, .receive ⟨b, [2]⟩), (.ofMillis 2000, .take), (.ofMillis 2000, .finish free)]

/-- Half a second after the first of them has been silent for the idle timeout, a sweep removes
its session and keeps the other one. -/
theorem sweep_removesIdle_pair : ∃ start t r s s' e',
    plainListener.start? 1 65536 .zero = some start ∧
    Reachable start t r ∧ Keyed r.engine ∧
    r.engine.session? "10.0.0.1:4001" = some s ∧ r.engine.session? "10.0.0.2:4001" = some s' ∧
    r.engine.sweep (.ofMillis 61500) ["10.0.0.2:4001", "10.0.0.1:4001"] = e' ∧
    SweepsIdle (.ofMillis 61500) r.engine e' ∧
    e'.session? "10.0.0.1:4001" = none ∧ e'.session? "10.0.0.2:4001" = some s' := by
  obtain ⟨start, t, r, started, reached, shape⟩ :=
    exists_reachable plainListener 1 65536 pairActions
      (fun _ r => r.engine.keys == ["10.0.0.1:4001", "10.0.0.2:4001"] &&
        r.engine.settings.idleTimeout == .ofSecs 60 &&
        (r.engine.session? "10.0.0.1:4001").any (·.clock == ⟨.ofMillis 1000, 0⟩) &&
        (r.engine.session? "10.0.0.2:4001").any (·.clock == ⟨.ofMillis 2000, 0⟩))
      (by decide +kernel)
  simp only [Bool.and_eq_true, beq_iff_eq, Option.any_eq_true] at shape
  obtain ⟨⟨⟨keys, timeout⟩, s, live, clock⟩, s', live', clock'⟩ := shape
  obtain ⟨keyed, -⟩ := sweep_removesIdle.2 started reached
  have all : ["10.0.0.2:4001", "10.0.0.1:4001"].Perm r.engine.keys := by rw [keys]; decide
  obtain ⟨sweeps, -⟩ := sweep_removesIdle.1 r.engine keyed (.ofMillis 61500) _ all
  refine ⟨start, t, r, s, s', _, started, reached, keyed, live, live', rfl, sweeps, ?_, ?_⟩
  · refine sweeps.removed _ s (.ofMillis 1000) live ?_ (by rw [timeout]; decide)
    rw [clock]
    exact ⟨Nat.le_refl _, by decide⟩
  · refine sweeps.kept _ s' (.ofMillis 2000) live' ?_ (by rw [timeout]; decide)
    rw [clock']
    exact ⟨Nat.le_refl _, by decide⟩

end Relay

end SocketRelay.Udp
