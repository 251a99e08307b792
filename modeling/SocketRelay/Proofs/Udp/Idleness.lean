import SocketRelay.Proofs.Udp.Conservation

/-!
# Silence before a removal

A session that the sweep removes has a client that was silent for the idle
timeout, but for the millisecond that the clock of the session cuts off. A
replier that gives up found its client silent too, but its report takes its
time: datagrams that the manager handles in between do not keep the session
(`Relay.Reachable.evicts_silent`, `Relay.lateReport_evicts_active`).
-/

namespace SocketRelay.Udp

open Net

/-- Whether a client was silent for `timeout` at `now`, with less than a millisecond left out. -/
def SilentAt (handled : List (Instant × Datagram)) (client : Endpoint) (timeout : Duration)
    (now : Instant) : Prop :=
  ∀ p ∈ handled, p.2.source.withoutFlow = client.withoutFlow →
    p.1.nanos + timeout.nanos < now.nanos + 1000000

instance (handled : List (Instant × Datagram)) (client : Endpoint) (timeout : Duration)
    (now : Instant) : Decidable (SilentAt handled client timeout now) :=
  inferInstanceAs (Decidable (∀ p ∈ handled, p.2.source.withoutFlow = client.withoutFlow →
    p.1.nanos + timeout.nanos < now.nanos + 1000000))

namespace ActivityClock

theorem idle_nanos (c : ActivityClock) (now : Instant) :
    (c.idle now).nanos = now.nanos - c.origin.nanos - c.lastMs.toNat * 1000000 := rfl

theorem lastMs_touch (c : ActivityClock) (now : Instant) :
    (c.touch now).lastMs.toNat = (now.nanos - c.origin.nanos) / 1000000 :=
  UInt64.toNat_ofNat_of_lt' (now.millis_since_lt c.origin)

theorem le_of_not_lt_idle {c : ActivityClock} {timeout : Duration} {now : Instant}
    (active : ¬ timeout < c.idle now) :
    now.nanos ≤ c.origin.nanos + c.lastMs.toNat * 1000000 + timeout.nanos := by
  rw [Duration.lt_iff, idle_nanos] at active
  omega

/-- A clock is less than a millisecond behind when it is touched. -/
theorem lt_touch (c : ActivityClock) (now : Instant) :
    now.nanos < c.origin.nanos + ((c.touch now).lastMs.toNat + 1) * 1000000 := by
  rw [lastMs_touch]
  omega

/-- A clock is never ahead of the datagram that touched it. -/
theorem touch_le {c : ActivityClock} {now : Instant} (began : c.origin ≤ now) :
    c.origin.nanos + (c.touch now).lastMs.toNat * 1000000 ≤ now.nanos := by
  have began : c.origin.nanos ≤ now.nanos := began
  rw [lastMs_touch]
  omega

end ActivityClock

namespace Engine

/-- A replier gave up at `verdict`, when its client was silent. What the manager handled since is
not before that. -/
structure GaveUpAt (e : Engine) (r : Reporter) (verdict : Instant) : Prop where
  raised : ∃ fate, Raised.mk verdict (r.report .remoteIdle) fate ∈ e.raised
  silent : ∃ before after, e.handled = before ++ after ∧
    SilentAt before r.client e.settings.idleTimeout verdict ∧ ∀ p ∈ after, verdict ≤ p.1

/-- What the clock of a session tells at `now`. -/
structure Watched (now : Instant) (e : Engine) (s : Session) : Prop where
  began : s.clock.origin ≤ now
  heard : ∀ p ∈ e.handled, p.2.source.withoutFlow = s.client.withoutFlow →
    p.1.nanos < s.clock.origin.nanos + (s.clock.lastMs.toNat + 1) * 1000000
  gaveUp : s.replier.phase = .failed .remoteIdle → ∃ verdict ≤ now, e.GaveUpAt s.reporter verdict

structure Timed (now : Instant) (e : Engine) : Prop where
  handled_le : ∀ p ∈ e.handled, p.1 ≤ now
  watched : ∀ q ∈ e.table, Watched now e q.2

namespace GaveUpAt

variable {e e' : Engine} {r : Reporter} {now verdict : Instant}

/-- Reports are added at the end, and datagrams that are handled `now`. -/
theorem of_more (h : e.GaveUpAt r verdict) (later : verdict ≤ now)
    {more : List (Instant × Datagram)} (handled : e'.handled = e.handled ++ more)
    (times : ∀ p ∈ more, p.1 = now) (raised : e.raised <+: e'.raised)
    (settings : e'.settings = e.settings) : e'.GaveUpAt r verdict := by
  obtain ⟨fate, hfate⟩ := h.raised
  obtain ⟨before, after, split, silent, since⟩ := h.silent
  refine ⟨⟨fate, raised.mem hfate⟩, before, after ++ more, ?_, ?_, ?_⟩
  · rw [handled, split, List.append_assoc]
  · rw [settings]; exact silent
  · intro p hp
    rcases List.mem_append.mp hp with hp | hp
    · exact since p hp
    · rw [times p hp]; exact later

end GaveUpAt

namespace Watched

variable {e e' : Engine} {s : Session} {t now : Instant}

theorem later (h : Watched t e s) (later : t ≤ now) : Watched now e s := by
  refine ⟨Nat.le_trans h.began later, h.heard, fun failed => ?_⟩
  obtain ⟨verdict, before, gaveUp⟩ := h.gaveUp failed
  exact ⟨verdict, Nat.le_trans before later, gaveUp⟩

/-- What happens to others. -/
theorem of_more (h : Watched now e s) (more : List (Instant × Datagram))
    (handled : e'.handled = e.handled ++ more)
    (others : ∀ p ∈ more, p.1 = now ∧ p.2.source.withoutFlow ≠ s.client.withoutFlow)
    (raised : e.raised <+: e'.raised) (settings : e'.settings = e.settings) :
    Watched now e' s := by
  refine ⟨h.began, fun p hp same => ?_, fun failed => ?_⟩
  · rw [handled] at hp
    rcases List.mem_append.mp hp with hp | hp
    · exact h.heard p hp same
    · exact absurd same (others p hp).2
  · obtain ⟨verdict, before, gaveUp⟩ := h.gaveUp failed
    exact ⟨verdict, before,
      gaveUp.of_more before handled (fun p hp => (others p hp).1) raised settings⟩

theorem of_same (h : Watched now e s) (handled : e'.handled = e.handled)
    (raised : e.raised <+: e'.raised) (settings : e'.settings = e.settings) :
    Watched now e' s :=
  h.of_more [] (by rw [handled, List.append_nil])
    (fun _ hp => absurd hp List.not_mem_nil) raised settings

/-- A client of which the clock has not heard for long was silent. -/
theorem silentAt (h : Watched now e s) (handled_le : ∀ p ∈ e.handled, p.1 ≤ now)
    {timeout : Duration} (quiet : timeout ≤ s.clock.idle now) :
    SilentAt e.handled s.client timeout now := by
  intro p hp same
  have heard := h.heard p hp same
  have early : p.1.nanos ≤ now.nanos := handled_le p hp
  have began : s.clock.origin.nanos ≤ now.nanos := h.began
  rw [Duration.le_iff, ActivityClock.idle_nanos] at quiet
  omega

theorem start (handled_le : ∀ p ∈ e.handled, p.1 ≤ now) (id : UInt64) (client remote : Endpoint)
    (capacity : Nat) : Watched now e (.start id client remote capacity now) := by
  refine ⟨Nat.le_refl _, fun p hp _ => ?_, fun failed => by cases failed⟩
  have early : p.1.nanos ≤ now.nanos := handled_le p hp
  show p.1.nanos < now.nanos + ((0 : UInt64).toNat + 1) * 1000000
  omega

/-- The manager handles a datagram of the session's client. -/
theorem touch (h : Watched now e s) {d : Datagram} (handled : e'.handled = e.handled ++ [(now, d)])
    (handled_le : ∀ p ∈ e.handled ++ [(now, d)], p.1 ≤ now) (raised : e'.raised = e.raised)
    (settings : e'.settings = e.settings) : Watched now e' (s.taken now d.payload) := by
  refine ⟨h.began, fun p hp _ => ?_, fun failed => ?_⟩
  · rw [handled] at hp
    have early : p.1.nanos ≤ now.nanos := handled_le p hp
    -- Even what was handled at this very moment is before the next millisecond of the clock.
    exact Nat.lt_of_le_of_lt early (s.clock.lt_touch now)
  · obtain ⟨verdict, before, gaveUp⟩ := h.gaveUp failed
    refine ⟨verdict, before,
      gaveUp.of_more before handled ?_ (raised ▸ List.prefix_refl _) settings⟩
    intro p hp
    rw [List.mem_singleton.mp hp]

/-- A task of the session goes on. A replier that gives up does so now, and finds the client
silent. -/
theorem step (h : Watched now e s) (handled_le : ∀ p ∈ e.handled, p.1 ≤ now) {s' : Session}
    {isOpen : Bool} {input : TaskInput} {effect : Effect}
    (step : e.stepSession now s isOpen input = some (s', effect))
    (handled : e'.handled = e.handled) (raised : e'.raised = e.raised)
    (settings : e'.settings = e.settings) : Watched now (e'.apply now s effect) s' := by
  have handled : (e'.apply now s effect).handled = e.handled :=
    (apply_frame (·.handled) (by intros; rfl)).trans handled
  have settings : (e'.apply now s effect).settings = e.settings :=
    (apply_frame (·.settings) (by intros; rfl)).trans settings
  obtain ⟨i, f, moved, rfl⟩ | ⟨i, r, moved, told, rfl⟩ := stepSession_cases step
  · have same := h.of_same handled (raised ▸ e'.raised_isPrefix_apply now s effect) settings
    exact ⟨same.began, same.heard, same.gaveUp⟩
  · refine ⟨h.began, by rw [handled]; exact h.heard, fun failed => ?_⟩
    obtain ⟨others, -⟩ | ⟨reason, cause, rfl, phase, reasons⟩ := Replier.step_cases moved
    · exact absurd failed (others _)
    · have idle : reason = .remoteIdle :=
        ReplierPhase.failed.inj (phase.symm.trans failed)
      subst idle
      obtain ⟨idle, rfl, silent⟩ : ∃ idle, i = .readDeadline idle ∧
          ¬ idle < e.settings.idleTimeout := by
        rcases reasons with read | respond | ⟨-, silent⟩
        · cases read
        · cases respond
        · exact silent
      rw [told idle rfl, Duration.lt_iff, Nat.not_lt] at silent
      refine ⟨now, Nat.le_refl _, ?_, e.handled, [], ?_, ?_, fun _ hp => absurd hp List.not_mem_nil⟩
      · obtain ⟨reason, cause, fate, eq, made⟩ | ⟨none, -⟩ :=
          apply_raised e' now s (.failed .remoteIdle cause)
        · cases eq
          refine ⟨fate, ?_⟩
          rw [made]
          exact List.mem_append_right _ List.mem_cons_self
        · exact absurd rfl (none .remoteIdle cause)
      · rw [handled, List.append_nil]
      · rw [settings]
        exact h.silentAt handled_le silent

end Watched

namespace Timed

variable {e e' : Engine} {s : Session} {t now : Instant}

theorem later (h : Timed t e) (later : t ≤ now) : Timed now e :=
  ⟨fun p hp => Nat.le_trans (h.handled_le p hp) later, fun q hq => (h.watched q hq).later later⟩

theorem handled_now (h : Timed now e) (d : Datagram) :
    ∀ p ∈ e.handled ++ [(now, d)], p.1 ≤ now := by
  intro p hp
  rcases List.mem_append.mp hp with hp | hp
  · exact h.handled_le p hp
  · rw [List.mem_singleton.mp hp]
    exact Nat.le_refl _

/-- Fewer sessions, and more reports. -/
theorem of_sub (h : Timed now e) (table : ∀ q ∈ e'.table, q ∈ e.table)
    (handled : e'.handled = e.handled) (raised : e.raised <+: e'.raised)
    (settings : e'.settings = e.settings) : Timed now e' :=
  ⟨handled ▸ h.handled_le, fun q hq =>
    (h.watched q (table q hq)).of_same handled raised settings⟩

theorem refuse (h : Timed now e) (table : Registered e) {d : Datagram}
    (absent : e.session? d.source.text = none) (error : Error) :
    Timed now (e.refuse now d error) := by
  refine ⟨h.handled_now d, fun q hq => ?_⟩
  refine (h.watched q hq).of_more [(now, d)] rfl (fun p hp => ?_) (List.prefix_refl _) rfl
  rw [List.mem_singleton.mp hp]
  refine ⟨rfl, fun same => notMem_keys_of_session? absent ?_⟩
  rw [Endpoint.text_eq_text_iff.mpr same, ← table.named q hq]
  exact List.mem_map_of_mem hq

theorem create (h : Timed now e) (client remote : Endpoint) :
    Timed now (e.create now client remote) := by
  refine ⟨h.handled_le, fun q hq => ?_⟩
  rcases List.mem_append.mp hq with hq | hq
  · exact (h.watched q hq).of_same rfl (List.prefix_refl _) rfl
  · rw [List.mem_singleton.mp hq]
    exact Watched.start (e := e.create now client remote) h.handled_le ..

/-- The client's session is touched; the others are of other clients. -/
theorem enqueue (h : Timed now e) (table : Registered e) {d : Datagram}
    (live : e.session? d.source.text = some s) :
    Timed now (e.enqueue now s d.source.text d) := by
  have handled : (e.enqueue now s d.source.text d).handled = e.handled ++ [(now, d)] :=
    handled_enqueue _
  have raised : (e.enqueue now s d.source.text d).raised = e.raised :=
    enqueue_frame (·.raised) (by intros; rfl) _
  have settings : (e.enqueue now s d.source.text d).settings = e.settings :=
    enqueue_frame (·.settings) (by intros; rfl) _
  refine ⟨handled ▸ h.handled_now d, fun q hq => ?_⟩
  rcases mem_table_enqueue table.unique live hq with rfl | ⟨hq, other⟩
  · exact (h.watched _ (mem_table_of_session? live)).touch handled (h.handled_now d) raised settings
  · refine (h.watched q hq).of_more [(now, d)] handled (fun p hp => ?_)
      (raised ▸ List.prefix_refl _) settings
    rw [List.mem_singleton.mp hp]
    refine ⟨rfl, fun same => other ?_⟩
    rw [table.named q hq, Endpoint.text_eq_text_iff.mpr same]

theorem step (h : Timed now e) (table : Registered e) {key : String} {s' : Session}
    {input : TaskInput} {effect : Effect} (live : e.session? key = some s)
    (step : e.stepSession now s true input = some (s', effect)) :
    Timed now ((e.update key fun _ => s').apply now s effect) := by
  have handled : ((e.update key fun _ => s').apply now s effect).handled = e.handled :=
    apply_frame (·.handled) (by intros; rfl)
  have settings : ((e.update key fun _ => s').apply now s effect).settings = e.settings :=
    apply_frame (·.settings) (by intros; rfl)
  have sessions : ((e.update key fun _ => s').apply now s effect).table =
      (e.update key fun _ => s').table := apply_frame (·.table) (by intros; rfl)
  refine ⟨handled ▸ h.handled_le, fun q hq => ?_⟩
  rw [sessions] at hq
  rcases mem_table_update table.unique live hq with rfl | ⟨hq, -⟩
  · exact (h.watched _ (mem_table_of_session? live)).step h.handled_le step rfl rfl rfl
  · exact (h.watched q hq).of_same handled
      ((e.update key fun _ => s').raised_isPrefix_apply now s effect) settings

theorem move (m : Move now e e') (table : Registered e) (h : Timed now e) : Timed now e' := by
  cases m with
  | received | readFailed | stalled | resolved | reportTaken =>
    exact h.of_sub (fun _ hq => hq) rfl (List.prefix_refl _) rfl
  | refused error absent => exact h.refuse table absent error
  | stopped size =>
    exact h.of_sub (fun _ hq => absurd hq List.not_mem_nil) rfl (List.prefix_refl _) rfl
  | created absent known size => exact h.create _ _
  | enqueued live => exact h.enqueue table live
  | swept live idle =>
    rw [evict_eq live]
    exact h.of_sub (fun _ hq => List.mem_of_mem_filter hq) rfl (List.prefix_refl _) rfl
  | reported live same =>
    rw [evict_eq live]
    exact h.of_sub (fun _ hq => List.mem_of_mem_filter hq) rfl (List.prefix_refl _) rfl
  | stepped live step => exact h.step table live step
  | @drained index s s' input effect gone step =>
    have sessions : ({ e with removed := e.removed.set index s' }.apply now s effect).table =
        e.table := apply_frame (·.table) (by intros; rfl)
    refine h.of_sub (fun q hq => sessions ▸ hq) ?_ ?_ ?_
    · exact apply_frame (·.handled) (by intros; rfl)
    · exact raised_isPrefix_apply { e with removed := e.removed.set index s' } now s effect
    · exact apply_frame (·.settings) (by intros; rfl)

end Timed

theorem session?_sweep (e : Engine) (now : Instant) (order : List String) (key : String) :
    (e.sweep now order).session? key =
      if key ∈ e.idleKeys now order then none else e.session? key := by
  unfold sweep
  generalize e.idleKeys now order = keys
  induction keys generalizing e with
  | nil => simp
  | cons k keys ih =>
    rw [List.foldl_cons, ih, session?_evict]
    by_cases here : key = k
    · simp [here]
    · simp [here]

/-- A sweep that goes through the whole table finds the idle sessions. -/
theorem mem_idleKeys {e : Engine} {order : List String} {key : String} {s : Session}
    (all : order.Perm e.keys) (live : e.session? key = some s) (now : Instant) :
    key ∈ e.idleKeys now order ↔ s.isIdle e.settings.idleTimeout now = true := by
  have inOrder : key ∈ order := all.mem_iff.mpr (mem_keys_of_session? live)
  rw [idleKeys, List.mem_filter, live, Option.any_some]
  exact ⟨And.right, fun idle => ⟨inOrder, idle⟩⟩

/-- A datagram makes the manager remove no session, unless it ends without a word. -/
theorem handleDatagram_keys (e : Engine) (now : Instant) (o : Opening) (d : Datagram) :
    (∀ key ∈ e.keys, key ∈ (e.handleDatagram now o d).keys) ∨
      (e.handleDatagram now o d).log = e.log := by
  obtain ⟨s, -, eq⟩ | ⟨-, ⟨error, eq⟩ | ⟨remote, -, ⟨error, eq⟩ | ⟨-, eq⟩ | ⟨-, s, -, eq⟩⟩⟩ :=
    e.handleDatagram_cases now o d
  · rw [eq, keys_enqueue]; exact .inl fun _ h => h
  · rw [eq]; exact .inl fun _ h => h
  · rw [eq]; exact .inl fun _ h => h
  · rw [eq]; exact .inr rfl
  · refine .inl fun key h => ?_
    rw [eq, keys_enqueue, keys_create]
    exact List.mem_append_left _ h

theorem not_gone {e e' : Engine} {key : String} {s : Session} (live : e.session? key = some s)
    (kept : ∀ key ∈ e.keys, key ∈ e'.keys) : e'.session? key ≠ none := fun gone =>
  notMem_keys_of_session? gone (kept _ (mem_keys_of_session? live))

/-- A session is removed by a sweep, which finds it idle, or because of a report. -/
theorem act_removes {e e' : Engine} {now : Instant} {a : Action} (h : e.act now a = some e')
    {key : String} {s : Session} (live : e.session? key = some s)
    (gone : e'.session? key = none) :
    s.isIdle e.settings.idleTimeout now = true ∨
      ∃ client why, e'.log = e.log ++ [.sessionEvicted client (.failure why)] := by
  cases a with
  | sweep order =>
    simp only [act] at h
    split at h
    · cases h
      rw [session?_sweep] at gone
      split at gone
      · next idle => exact .inl (isIdle_of_mem_idleKeys idle live)
      · rw [live] at gone; cases gone
    · cases h
  | report =>
    simp only [act] at h
    split at h
    · obtain ⟨⟨report, reports⟩, -, rfl⟩ := Option.map_eq_some_iff.mp h
      dsimp only at gone ⊢
      unfold handleReport at gone ⊢
      split
      · next s' same_key =>
        split
        · rw [evict_eq same_key]
          exact .inr ⟨s'.client, report.reason, rfl⟩
        · next other =>
          simp only [same_key, if_neg other] at gone
          exact absurd gone (not_gone live fun _ h => h)
      · next absent =>
        simp only [absent] at gone
        exact absurd gone (not_gone live fun _ h => h)
    · cases h
  | query =>
    simp only [act] at h
    split at h
    · cases h; exact absurd gone (not_gone live fun _ h => h)
    · cases h
  | task place input =>
    exact absurd gone (not_gone live fun _ hk => (keys_stepTask h).symm ▸ hk)

end Engine

namespace Relay

open Engine

/-- The manager removes a session and says why. -/
structure Evicts (r r' : Relay) (s : Session) (reason : EvictionReason) : Prop where
  live : r.engine.session? s.client.text = some s
  gone : r'.engine.session? s.client.text = none
  logged : .sessionEvicted s.client reason ∈ r'.engine.log.drop r.engine.log.length

instance (r r' : Relay) (s : Session) (reason : EvictionReason) :
    Decidable (r.Evicts r' s reason) :=
  decidable_of_iff (r.engine.session? s.client.text = some s ∧
      r'.engine.session? s.client.text = none ∧
      .sessionEvicted s.client reason ∈ r'.engine.log.drop r.engine.log.length)
    ⟨fun h => ⟨h.1, h.2.1, h.2.2⟩, fun h => ⟨h.live, h.gone, h.logged⟩⟩

theorem keys_handOn (r : Relay) (d : Datagram) : (r.handOn d).engine.keys = r.engine.keys := by
  unfold handOn
  split
  · rfl
  · rfl
  · dsimp only
    split <;> rfl

/-- Only the sweep removes a session because it is idle. -/
theorem Evicts.isIdle {r r' : Relay} {s : Session} {now : Instant} {a : Action}
    (act : r.act now a = some r') (evicts : r.Evicts r' s .idle) :
    s.isIdle r.engine.settings.idleTimeout now = true := by
  cases a with
  | receive d =>
    simp only [Relay.act] at act
    split at act
    · cases act
      exact absurd evicts.gone (not_gone evicts.live fun _ h => (keys_handOn (r.note _) _).symm ▸ h)
    · cases act
  | readFailed cause =>
    simp only [Relay.act] at act
    split at act
    · cases act; exact absurd evicts.gone (not_gone evicts.live fun _ h => h)
    · cases act
  | handOver =>
    simp only [Relay.act] at act
    split at act
    · cases act
    · split at act
      · cases act; exact absurd evicts.gone (not_gone evicts.live fun _ h => h)
      · cases act; exact absurd evicts.gone (not_gone evicts.live fun _ h => h)
      · cases act
  | take =>
    obtain ⟨-, d, ingest, -, rfl⟩ := act_take_eq_some act
    exact absurd evicts.gone (not_gone evicts.live fun _ h => h)
  | finish o =>
    obtain ⟨-, d, -, rfl⟩ := act_finish_eq_some act
    have gone := evicts.gone
    have logged := evicts.logged
    rw [engine_follow] at gone logged
    rcases r.engine.handleDatagram_keys now o d with kept | same
    · exact absurd gone (not_gone evicts.live kept)
    · dsimp only at logged
      rw [same, List.drop_length] at logged
      cases logged
  | engine a =>
    obtain ⟨e', -, step, rfl⟩ := act_engine_eq_some act
    rcases act_removes step evicts.live evicts.gone with idle | ⟨client, why, log⟩
    · exact idle
    · -- A report gives another reason.
      have logged := evicts.logged
      dsimp only at logged
      rw [log, List.drop_left, List.mem_singleton] at logged
      cases (Event.sessionEvicted.inj logged).2

theorem Reachable.timed {l : Listener} {cores : UInt64} {memory : Nat} {began t : Instant}
    {start r : Relay} (started : l.start? cores memory began = some start)
    (reached : Reachable start t r) :
    Timed t r.engine :=
  (reached.registered_keeps (P := Timed) started (fun later h => h.later later)
    (fun m table h => h.move m table)
    fun _ => ⟨fun _ hp => absurd hp List.not_mem_nil, fun _ hq => absurd hq List.not_mem_nil⟩).2

theorem Reachable.evicts_silent {l : Listener} {cores : UInt64} {memory : Nat}
    {began t now : Instant} {start r r' : Relay}
    (started : l.start? cores memory began = some start) (reached : Reachable start t r)
    (later : t ≤ now) {a : Action} (act : r.act now a = some r') {s : Session}
    {reason : EvictionReason} (evicts : r.Evicts r' s reason) :
    (reason = .idle → SilentAt r.engine.handled s.client r.engine.settings.idleTimeout now) ∧
    (reason = .failure .remoteIdle → s.replier.phase = .failed .remoteIdle →
      ∃ verdict ≤ now, r.engine.GaveUpAt s.reporter verdict) := by
  have timed := (reached.timed started).later later
  have watched := timed.watched _ (mem_table_of_session? evicts.live)
  refine ⟨?_, fun _ failed => watched.gaveUp failed⟩
  rintro rfl
  have idle := Session.isIdle_iff.mp (evicts.isIdle act)
  exact watched.silentAt timed.handled_le (Nat.le_of_lt idle)

def plainListener : Listener := ⟨.v4 ⟨127, 0, 0, 1⟩ 7000, "example.net:53", {}⟩

def silentActions : List (Instant × Action) :=
  [(.ofMillis 1000, .receive ⟨.v4 ⟨10, 0, 0, 1⟩ 4001, [1]⟩),
   (.ofMillis 1000, .take), (.ofMillis 1000, .finish ⟨.ok [.v4 ⟨192, 0, 2, 1⟩ 53], .ok ()⟩),
   (.ofMillis 62000, .engine .query)]

theorem sweep_evicts_silent : ∃ start t r r' s, plainListener.start? 1 65536 .zero = some start ∧
    Reachable start t r ∧ r.act t (.engine (.sweep r.engine.keys)) = some r' ∧
    r.Evicts r' s .idle ∧
    SilentAt r.engine.handled s.client r.engine.settings.idleTimeout t := by
  obtain ⟨start, t, r, started, reached, swept⟩ :=
    exists_reachable plainListener 1 65536 silentActions
      (fun t r => (r.act t (.engine (.sweep r.engine.keys))).any fun r' =>
        r.engine.everySession.any fun s => decide (r.Evicts r' s .idle)) (by decide +kernel)
  obtain ⟨r', act, swept⟩ := (Option.any_eq_true _ _).mp swept
  obtain ⟨s, -, evicts⟩ := List.any_eq_true.mp swept
  have evicts := of_decide_eq_true evicts
  exact ⟨start, t, r, r', s, started, reached, act, evicts,
    (reached.evicts_silent started (Nat.le_refl _) act evicts).1 rfl⟩

/-- After the silence a replier gives up, and a datagram of its client comes before the report. -/
def lateReportActions : List (Instant × Action) :=
  let client : Endpoint := .v4 ⟨10, 0, 0, 1⟩ 4001
  let free : Opening := ⟨.ok [.v4 ⟨192, 0, 2, 1⟩ 53], .ok ()⟩
  silentActions ++
    [(.ofMillis 62000, .engine (.task (.live client.text) .readDeadline)),
     (.ofMillis 62000, .receive ⟨client, [2]⟩), (.ofMillis 62000, .take),
     (.ofMillis 62000, .finish free)]

/-- The report removes a session whose client was heard from at this very moment. -/
theorem lateReport_evicts_active : ∃ start t r r' s,
    plainListener.start? 1 65536 .zero = some start ∧
    Reachable start t r ∧ r.act t (.engine .report) = some r' ∧
    r.Evicts r' s (.failure .remoteIdle) ∧ s.replier.phase = .failed .remoteIdle ∧
    ¬ SilentAt r.engine.handled s.client r.engine.settings.idleTimeout t := by
  obtain ⟨start, t, r, started, reached, reported⟩ :=
    exists_reachable plainListener 1 65536 lateReportActions
      (fun t r => (r.act t (.engine .report)).any fun r' =>
        r.engine.everySession.any fun s => decide (r.Evicts r' s (.failure .remoteIdle) ∧
          s.replier.phase = .failed .remoteIdle ∧
          ¬ SilentAt r.engine.handled s.client r.engine.settings.idleTimeout t))
      (by decide +kernel)
  obtain ⟨r', act, reported⟩ := (Option.any_eq_true _ _).mp reported
  obtain ⟨s, -, shape⟩ := List.any_eq_true.mp reported
  exact ⟨start, t, r, r', s, started, reached, act, of_decide_eq_true shape⟩

end Relay

end SocketRelay.Udp
