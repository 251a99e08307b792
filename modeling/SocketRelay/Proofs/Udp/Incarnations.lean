import SocketRelay.Proofs.Udp.Idleness
import SocketRelay.Proofs.Udp.Reports

/-!
# Reports and the sessions they are about

A client has one session after the other under the same key, and a report may
wait so long that the session it is about is gone when the manager takes it. The
number in the report tells. So a report removes the session whose task made it,
or does nothing (`Engine.HitsOwn`), in whatever order reports come, how late and
how often (`Relay.Delayed.ownReports`). This holds as long as numbers do not run
out.
-/

namespace SocketRelay

def Event.evicted? : Event → Option Net.Endpoint
  | .sessionEvicted client _ => some client
  | _ => none

namespace Udp

open Net

namespace Engine

variable {e e' : Engine} {now : Instant} {key : String} {s : Session} {x : Report}

/-- Every session that was removed has one event. -/
def Logged (e : Engine) : Prop :=
  e.log.filterMap Event.evicted? = e.removed.map (·.client)

namespace Logged

theorem of_same (h : Logged e) (removed : e'.removed.map (·.client) = e.removed.map (·.client))
    (log : e'.log.filterMap Event.evicted? = e.log.filterMap Event.evicted?) : Logged e' := by
  rw [Logged, log, removed]
  exact h

theorem record (h : Logged e) {event : Event} (quiet : event.evicted? = none) :
    Logged (e.record event) := by
  refine h.of_same rfl ?_
  rw [Engine.record, List.filterMap_append, List.filterMap_cons_none quiet, List.filterMap_nil,
    List.append_nil]

theorem evict (h : Logged e) (live : e.session? key = some s) (reason : EvictionReason) :
    Logged (e.evict key reason) := by
  rw [evict_eq live, Logged]
  simp only [Engine.record, List.filterMap_append, List.map_append]
  rw [h]
  rfl

theorem apply (h : Logged e) (now : Instant) (s : Session) (effect : Effect) :
    Logged (e.apply now s effect) := by
  refine h.of_same ?_ (filterMap_log_apply (fun _ _ _ => rfl) (fun _ _ => rfl) e now s effect)
  exact congrArg _ (apply_frame (·.removed) (by intros; rfl))

theorem move (m : Move now e e') (table : Registered e) (h : Logged e) : Logged e' := by
  cases m with
  | received | resolved | reportTaken => exact h
  | readFailed | stalled => exact record (e := { e with stats := _ }) h rfl
  | @refused d error absent =>
    refine record (e := { e with stats := _, handled := _, refused := _ }) h ?_
    unfold openFailure
    split <;> rfl
  | stopped size =>
    -- The manager goes without a word, but then no session was ever opened.
    refine h.of_same ?_ rfl
    rw [stop, table.table_eq_nil size, List.map_nil, List.append_nil]
  | created => exact record (e := { e with lastId := _, table := _, stats := _ }) h rfl
  | enqueued live =>
    refine h.of_same (congrArg _ (enqueue_frame (·.removed) (by intros; rfl) _)) ?_
    rw [log_enqueue, List.filterMap_append]
    split <;> exact List.append_nil _
  | swept live idle => exact h.evict live _
  | reported live same => exact h.evict live _
  | stepped live step => exact apply (e := e.update _ _) h now _ _
  | @drained index s s' input effect gone step =>
    obtain ⟨-, client, -⟩ := stepSession_identity step
    have set : Logged { e with removed := e.removed.set index s' } :=
      h.of_same ((replaced_set gone s').map_eq client) rfl
    exact set.apply now s effect

end Logged

/-- Taken now, the report removes the one session whose task made it. If that session is gone,
nothing changes at all. -/
def HitsOwn (e : Engine) (x : Report) : Prop :=
  ∃ s ∈ e.everySession, x ∈ s.reports ∧ (∀ s' ∈ e.everySession, x ∈ s'.reports → s' = s) ∧
    ((e.session? x.key = some s ∧ e.handleReport x =
      { e with
        table := e.table.filter (·.1 ≠ x.key)
        removed := e.removed ++ [s]
        stats.evicted := e.stats.evicted + 1 }.record
          (.sessionEvicted s.client (.failure x.reason))) ∨
    (s ∈ e.removed ∧ e.handleReport x = e))

/-- The numbers of sessions tell whose report it is. -/
theorem hitsOwn_of_mem (table : Registered e) (distinct : (e.everySession.map (·.id)).Nodup)
    (hs : s ∈ e.everySession) (hx : x ∈ s.reports) : e.HitsOwn x := by
  have id := Session.id_of_mem hx
  refine ⟨s, hs, hx, fun s' hs' hx' => ?_, ?_⟩
  · refine List.inj_on_of_nodup_map distinct hs' hs ?_
    rw [← Session.id_of_mem hx', id]
  · rcases List.mem_append.mp hs with gone | here
    · refine .inr ⟨gone, ?_⟩
      unfold handleReport
      split
      · next other live =>
        -- The key may belong to a newer session by now, under another number.
        rw [everySession, List.map_append, List.nodup_append] at distinct
        refine if_neg fun same => distinct.2.2 _ (List.mem_map_of_mem gone) _
          (List.mem_map_of_mem (List.mem_map_of_mem (mem_table_of_session? live))) ?_
        rw [← id, same]
      · rfl
    · obtain ⟨⟨k, s'⟩, hp, rfl⟩ := List.mem_map.mp here
      have live : e.session? x.key = some s' := by
        rw [Session.key_of_mem hx, ← table.named _ hp]
        exact session?_of_mem_table table.unique hp
      refine .inl ⟨live, ?_⟩
      rw [← evict_eq live, handleReport, live]
      exact if_pos id.symm

end Engine

namespace Relay

open Engine

/-- The states of a relay whose manager may take any report, at any time after it was made and any
number of times. -/
inductive Delayed (start : Relay) : Instant → Relay → Prop where
  | start (now : Instant) : Delayed start now start
  | step {t now : Instant} {r r' : Relay} {a : Action} (before : Delayed start t r)
      (later : t ≤ now) (h : r.act now a = some r') : Delayed start now r'
  | late {t now : Instant} {r : Relay} {y : Raised} (before : Delayed start t r) (later : t ≤ now)
      (running : r.engine.running = true) (made : y ∈ r.engine.raised) :
      Delayed start now { r with engine := r.engine.handleReport y.report }

theorem Reachable.delayed {start r : Relay} {t : Instant} (reached : Reachable start t r) :
    Delayed start t r := by
  induction reached with
  | start t => exact .start t
  | step _ later act ih => exact ih.step later act

/-- What is known of reports, and of the sessions that were removed. -/
structure OwnReports (r : Relay) : Prop where
  queued : ∀ x ∈ r.engine.reports.items, ∃ y ∈ r.engine.raised, y.report = x
  /-- The manager may have taken reports from the channel or not. -/
  hits : ∀ y ∈ r.engine.raised, ∀ reports, { r.engine with reports }.HitsOwn y.report
  /-- No session is removed twice, or removed and in the table. -/
  once : (r.engine.everySession.map (·.id)).Nodup
  evictions : r.engine.log.filterMap Event.evicted? = r.engine.removed.map (·.client)
  counted : r.engine.stats.evicted = UInt64.ofNat r.engine.removed.length

namespace Delayed

variable {l : Listener} {cores : UInt64} {memory : Nat} {began t : Instant} {start r : Relay}

theorem keeps {P : Engine → Prop} (reached : Delayed start t r)
    (move : ∀ {now e e'}, Move now e e' → P e → P e') (first : P start.engine) : P r.engine := by
  induction reached with
  | start => exact first
  | step _ _ act ih => exact (act_moves act).keeps move ih
  | @late _ now r y _ _ _ _ ih => exact (r.engine.handleReport_moves now y.report).keeps move ih

theorem ownReports (started : l.start? cores memory began = some start)
    (reached : Delayed start t r)
    (few : r.engine.everySession.length < UInt64.size) : r.OwnReports := by
  obtain ⟨table, reported, logged⟩ : Registered r.engine ∧ Reported r.engine ∧ Logged r.engine := by
    refine reached.keeps (P := fun e => Registered e ∧ Reported e ∧ Logged e)
      (fun m h => ⟨h.1.move m, h.2.1.move m h.1, h.2.2.move m h.1⟩) ?_
    rw [Listener.engine_of_start? started]
    exact ⟨(registered_start ..).record _, (reported_start ..).record rfl, rfl⟩
  have distinct := table.ids_nodup_of_few few
  refine ⟨reported.queued, fun y hy reports => ?_, distinct, logged, table.evicted⟩
  obtain ⟨s, hs, hx⟩ := List.mem_flatMap.mp
    (reported.made.subset (List.mem_map_of_mem (f := (·.report)) hy))
  have same : Registered { r.engine with reports } :=
    table.of_same rfl table.named rfl rfl rfl rfl rfl rfl
  exact hitsOwn_of_mem same distinct hs hx

/-- A report waits while the sweep removes its session and the client gets another one. -/
def staleReportActions : List (Instant × Action) :=
  let client : Endpoint := .v4 ⟨10, 0, 0, 1⟩ 4001
  let free : Opening := ⟨.ok [.v4 ⟨192, 0, 2, 1⟩ 53], .ok ()⟩
  let forwarder (input : ForwarderInput) : Action :=
    .engine (.task (.live client.text) (.forwarder input))
  [(.ofMillis 1000, .receive ⟨client, [1]⟩), (.ofMillis 1000, .take),
   (.ofMillis 1000, .finish free),
   (.ofMillis 1000, forwarder .take), (.ofMillis 1000, forwarder (.writeFailed .messageTooLong)),
   (.ofMillis 62000, .engine (.sweep [client.text])),
   (.ofMillis 62000, .receive ⟨client, [2]⟩), (.ofMillis 62000, .take),
   (.ofMillis 62000, .finish free)]

/-- The manager takes the report twice, and the second session stays. -/
theorem ownReports_stale : ∃ start t r, plainListener.start? 1 65536 .zero = some start ∧
    Delayed start t r ∧ r.engine.everySession.length < UInt64.size ∧ r.OwnReports ∧
    r.engine.raised.map (·.report.id) = [1] ∧ r.engine.removed.map (·.id) = [1] ∧
    r.engine.table.map (·.2.id) = [2] := by
  obtain ⟨start, t, r, started, reached, shape⟩ :=
    exists_reachable plainListener 1 65536
      (staleReportActions ++ [(.ofMillis 63000, .engine .report)])
      (fun _ r => r.engine.raised.any fun y =>
        let e := r.engine.handleReport y.report
        r.engine.running && decide (e.everySession.length < UInt64.size) &&
          e.raised.map (·.report.id) == [1] && e.removed.map (·.id) == [1] &&
          e.table.map (·.2.id) == [2]) (by decide +kernel)
  obtain ⟨y, made, shape⟩ := List.any_eq_true.mp shape
  simp only [Bool.and_eq_true, beq_iff_eq, decide_eq_true_eq] at shape
  obtain ⟨⟨⟨⟨running, few⟩, raised⟩, removed⟩, live⟩ := shape
  have late := reached.delayed.late (Nat.le_refl _) running made
  exact ⟨start, t, _, started, late, few, late.ownReports started few, raised, removed, live⟩

end Delayed

end Relay

end Udp

end SocketRelay
