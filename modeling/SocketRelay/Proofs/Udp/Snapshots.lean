import SocketRelay.Proofs.Udp.Idleness
import SocketRelay.Proofs.Udp.SessionLog
import Mathlib.Data.List.Sort

/-!
# The list of sessions

A manager that is asked for its sessions shows each of them once, in the order
of their numbers, in whatever order it goes through its table. As long as
numbers have not run out, that is the order in which the sessions were created
(`Engine.Snapshot`).
-/

namespace SocketRelay

/-- Both events create sessions, and the first has the smaller number. -/
def Event.CreatedBefore (a b : Event) : Prop :=
  ∃ i j, a.createdId? = some i ∧ b.createdId? = some j ∧ i < j

theorem Event.CreatedBefore.asymm {a b : Event} (h : a.CreatedBefore b) : ¬ b.CreatedBefore a := by
  rintro ⟨j, i, second, first, before⟩
  obtain ⟨i', j', first', second', after⟩ := h
  cases first.symm.trans first'
  cases second.symm.trans second'
  exact UInt64.lt_asymm before after

instance : Std.Antisymm Event.CreatedBefore := ⟨fun _ _ h h' => absurd h' h.asymm⟩

instance : Std.Irrefl Event.CreatedBefore := ⟨fun _ h => h.asymm h⟩

namespace Udp

open Net

def SessionInfo.creation (i : SessionInfo) : Event := .sessionCreated i.client i.id i.remote

namespace Engine

variable {e : Engine} {now : Instant} {sessions order : List Session}

/-! ## Listings -/

theorem listing_perm (now : Instant) (sessions : List Session) :
    (listing now sessions).Perm (sessions.map (·.info now)) := List.mergeSort_perm ..

theorem listing_sorted (now : Instant) (sessions : List Session) :
    (listing now sessions).Pairwise (·.id ≤ ·.id) := by
  have sorted := @List.pairwise_mergeSort SessionInfo (fun a b => decide (a.id ≤ b.id))
    (fun _ _ _ ab bc => decide_eq_true
      (UInt64.le_trans (of_decide_eq_true ab) (of_decide_eq_true bc)))
    (fun a b => by simp [UInt64.le_total]) (sessions.map (·.info now))
  exact sorted.imp of_decide_eq_true

theorem ids_listing (now : Instant) (sessions : List Session) :
    ((listing now sessions).map (·.id)).Perm (sessions.map (·.id)) := by
  have ids := (listing_perm now sessions).map (·.id)
  rwa [List.map_map] at ids

theorem listing_increasing (distinct : (sessions.map (·.id)).Nodup) (now : Instant) :
    (listing now sessions).Pairwise (·.id < ·.id) := by
  have nodup : (listing now sessions).Pairwise (·.id ≠ ·.id) :=
    List.pairwise_map.mp ((ids_listing now sessions).nodup_iff.mpr distinct)
  exact ((listing_sorted now sessions).and nodup).imp fun h => UInt64.lt_of_le_of_ne h.1 h.2

/-- Sessions with different numbers are listed alike, in whatever order they come. -/
theorem listing_eq_of_perm (distinct : (sessions.map (·.id)).Nodup) (same : order.Perm sessions)
    (now : Instant) : listing now order = listing now sessions := by
  have distinct' : (order.map (·.id)).Nodup := (same.map _).nodup_iff.mpr distinct
  have perm : (listing now order).Perm (listing now sessions) :=
    (listing_perm now order).trans ((same.map _).trans (listing_perm now sessions).symm)
  exact perm.eq_of_pairwise (fun _ _ _ _ ab ba => absurd ba (UInt64.lt_asymm ab))
    (listing_increasing distinct' now) (listing_increasing distinct now)

/-! ## Creations -/

theorem Registered.table_ids (h : Registered e) (few : e.everySession.length < UInt64.size) :
    ((e.table.map (·.2)).map (·.id)).Nodup := by
  have ids := h.ids_nodup_of_few few
  rw [everySession, List.map_append] at ids
  exact (List.nodup_append.mp ids).2.1

namespace SessionsLogged

/-- The creations in the log are in the order of their numbers. -/
theorem creations_pairwise (h : SessionsLogged e) (few : e.everySession.length < UInt64.size) :
    (e.log.filter (·.isCreation)).Pairwise Event.CreatedBefore := by
  have ids : (e.sessionLog.filterMap (·.createdId?)).Pairwise (· < ·) := by
    rw [h.numbered, List.pairwise_map]
    refine List.pairwise_lt_range.imp_of_mem fun {i j} hi hj before => ?_
    have hj := List.mem_range.mp hj
    rw [UInt64.lt_iff_toNat_lt, UInt64.toNat_ofNat_of_lt' (by omega),
      UInt64.toNat_ofNat_of_lt' (by omega)]
    omega
  have creations : e.log.filter (·.isCreation) = e.sessionLog.filter (·.isCreation) := by
    rw [sessionLog, List.filter_filter]
    exact List.filter_congr fun event _ => by cases event <;> rfl
  have numbered (event : Event) (creation : event.isCreation = true) :
      ∃ i, event.createdId? = some i := by
    cases event with
    | sessionCreated client id remote => exact ⟨id, rfl⟩
    | _ => cases creation
  rw [creations]
  refine ((List.pairwise_filterMap.mp ids).filter _).imp_of_mem fun {a b} ha hb before => ?_
  obtain ⟨i, hi⟩ := numbered a (List.mem_filter.mp ha).2
  obtain ⟨j, hj⟩ := numbered b (List.mem_filter.mp hb).2
  exact ⟨i, j, hi, hj, before i hi j hj⟩

theorem creation_mem (h : SessionsLogged e) {key : String} {s : Session}
    (live : e.session? key = some s) : s.creation ∈ e.log.filter (·.isCreation) := by
  have last := (h.turns key).last
  rw [live, Option.map_some, Option.filter_eq_some_iff] at last
  have mem := List.mem_of_getLast? last.1
  refine List.mem_filter.mpr ⟨?_, rfl⟩
  exact List.mem_of_mem_filter (List.mem_of_mem_filter mem)

end SessionsLogged

/-- The sessions of the table are listed in the order of their creation. -/
theorem creations_listing (logged : SessionsLogged e) (table : Registered e)
    (few : e.everySession.length < UInt64.size) (now : Instant) :
    ((e.snapshot now).map (·.creation)).Sublist e.log := by
  have increasing : ((e.snapshot now).map (·.creation)).Pairwise Event.CreatedBefore :=
    List.pairwise_map.mpr
      ((listing_increasing (table.table_ids few) now).imp fun before => ⟨_, _, rfl, rfl, before⟩)
  have all : (e.snapshot now).map (·.creation) ⊆ e.log.filter (·.isCreation) := by
    intro event h
    obtain ⟨info, listed, rfl⟩ := List.mem_map.mp h
    obtain ⟨s, live, rfl⟩ := List.mem_map.mp ((listing_perm now _).mem_iff.mp listed)
    obtain ⟨⟨key, s⟩, here, rfl⟩ := List.mem_map.mp live
    exact logged.creation_mem (session?_of_mem_table table.unique here)
  have sub := List.subperm_of_subset increasing.nodup all
  exact (List.sublist_of_subperm_of_pairwise sub increasing (logged.creations_pairwise few)).trans
    List.filter_sublist

/-! ## What a query shows -/

/-- What a manager answers when it is asked for its sessions at `now`. -/
structure Snapshot (now : Instant) (e : Engine) : Prop where
  sessions : e.running = true → e.sessions now = .ok (e.snapshot now)
  /-- Every session once, with what it shows of itself. -/
  perm : ∀ order : List Session, order.Perm (e.table.map (·.2)) →
    (listing now order).Perm ((e.table.map (·.2)).map (·.info now))
  count : e.running = true → e.sessionCount now = .ok (e.snapshot now).length
  length : (e.snapshot now).length = e.table.length
  stopped : e.running = false → e.sessions now = .error .managerStopped
  unchanged : e.handle (.query now) = e ∧ ∀ e', e.act now .query = some e' → e' = e
  /-- As long as numbers have not run out, no two sessions are listed under one number. -/
  increasing : e.everySession.length < UInt64.size → (e.snapshot now).Pairwise (·.id < ·.id)
  independent : e.everySession.length < UInt64.size →
    ∀ order : List Session, order.Perm (e.table.map (·.2)) → listing now order = e.snapshot now
  /-- The sessions were created in the order in which they are listed. -/
  created : e.everySession.length < UInt64.size →
    ((e.snapshot now).map (·.creation)).Sublist e.log

theorem SessionsLogged.snapshot (logged : SessionsLogged e) (table : Registered e) (now : Instant) :
    Snapshot now e where
  sessions running := if_pos running
  perm order same := (listing_perm now order).trans (same.map _)
  count running := by rw [sessionCount, Engine.sessions, if_pos running]; rfl
  length := by
    rw [Engine.snapshot, (listing_perm now _).length_eq, List.length_map, List.length_map]
  stopped running := if_neg (by rw [running]; exact Bool.false_ne_true)
  unchanged := by
    refine ⟨rfl, fun e' act => ?_⟩
    simp only [Engine.act] at act
    split at act
    · cases act; rfl
    · cases act
  increasing few := listing_increasing (table.table_ids few) now
  independent few _ same := listing_eq_of_perm (table.table_ids few) same now
  created few := creations_listing logged table few now

end Engine

namespace Relay

open Engine

/-- In every state of an engine or a relay, whatever happened to it. -/
theorem snapshot_listsSessions :
    (∀ target settings began inputs now,
      Snapshot now ((Engine.start target settings began).run inputs)) ∧
    ∀ {l : Listener} {cores : UInt64} {memory : Nat} {began t : Instant} {start r : Relay},
      l.start? cores memory began = some start → Reachable start t r →
        ∀ now, Snapshot now r.engine := by
  refine ⟨fun target settings began inputs now => ?_, fun started reached now => ?_⟩
  · obtain ⟨table, logged⟩ := run_keeps (P := fun e => Registered e ∧ SessionsLogged e)
      (fun m h => ⟨h.1.move m, h.2.move m h.1⟩)
      ⟨registered_start target settings began, sessionsLogged_start ..⟩ inputs
    exact logged.snapshot table now
  · obtain ⟨table, logged⟩ := reached.registered_keeps (P := fun _ => SessionsLogged) started
      (fun _ h => h) (fun m table h => h.move m table)
      fun _ => (sessionsLogged_start ..).of_same (sessionLog_record rfl) (fun _ => rfl) rfl
        fun _ known => known
    exact logged.snapshot table now

/-- Two clients, the first of them again after its session was idle. -/
def returningActions : List (Instant × Action) :=
  let a : Endpoint := .v4 ⟨10, 0, 0, 1⟩ 4001
  let b : Endpoint := .v4 ⟨10, 0, 0, 2⟩ 4001
  let free : Opening := ⟨.ok [.v4 ⟨192, 0, 2, 1⟩ 53], .ok ()⟩
  [(.ofMillis 1000, .receive ⟨a, [1]⟩), (.ofMillis 1000, .take), (.ofMillis 1000, .finish free),
   (.ofMillis 2000, .receive ⟨b, [2]⟩), (.ofMillis 2000, .take), (.ofMillis 2000, .finish free),
   (.ofMillis 61500, .engine (.sweep [a.text, b.text])),
   (.ofMillis 61500, .receive ⟨a, [3]⟩), (.ofMillis 61500, .take), (.ofMillis 61500, .finish free)]

/-- The list does not show in which order the table is gone through. -/
theorem snapshot_listsSessions_returning : ∃ start t r,
    plainListener.start? 1 65536 .zero = some start ∧
    Reachable start t r ∧ r.engine.everySession.length < UInt64.size ∧ Snapshot t r.engine ∧
    r.engine.table.map (·.2.id) = [2, 3] ∧
    listing t (r.engine.table.map (·.2)).reverse = r.engine.snapshot t := by
  obtain ⟨start, t, r, started, reached, shape⟩ :=
    exists_reachable plainListener 1 65536 returningActions
      (fun t r => decide (r.engine.everySession.length < UInt64.size) &&
        r.engine.table.map (·.2.id) == [2, 3]) (by decide +kernel)
  obtain ⟨few, ids⟩ := Bool.and_eq_true_iff.mp shape
  have few := of_decide_eq_true few
  have shown : Snapshot t r.engine := snapshot_listsSessions.2 started reached t
  exact ⟨start, t, r, started, reached, few, shown, eq_of_beq ids,
    shown.independent few _ (List.reverse_perm _)⟩

end Relay

end Udp

end SocketRelay
