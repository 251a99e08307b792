import SocketRelay.Proofs.Udp.Table
import SocketRelay.Proofs.Udp.Tasks
import Mathlib.Logic.Relation

/-!
# What can happen to an engine

`Move now e e'` lists the single changes that a moment can bring: one for each
thing that the read loop, the manager or a task of a session does. Whatever a
relay or an engine does is a sequence of moves (`Relay.act_moves`,
`Engine.handle_moves`), so a property that every move keeps holds in every state
of every run (`Relay.Reachable.keeps`, `Engine.run_keeps`).
-/

namespace SocketRelay.Udp

open Net

namespace Engine

inductive Move (now : Instant) : Engine → Engine → Prop where
  /-- The read loop has read a datagram. -/
  | received (e : Engine) :
    Move now e { e with stats.received := e.stats.received + 1 }
  | readFailed (e : Engine) (listen : Endpoint) (error : String) :
    Move now e ({ e with stats.readErrors := e.stats.readErrors + 1 }.record
      (.datagramReadFailed listen error))
  | stalled (e : Engine) (listen : Endpoint) :
    Move now e ({ e with stats.stalls := e.stats.stalls + 1 }.record (.ingestStalled listen))
  | resolved {e : Engine} {lookup : Except IoError (List Endpoint)} {remote : Endpoint}
    (found : e.resolve lookup = .ok remote) : Move now e { e with resolved := some remote }
  | refused {e : Engine} {d : Datagram} (error : Error)
    (absent : e.session? d.source.text = none) : Move now e (e.refuse now d error)
  /-- The manager ends because it cannot have a queue of the size that is set. -/
  | stopped {e : Engine} (size : Channel.canHave e.settings.outboundQueue.toNat = false) :
    Move now e e.stop
  | created {e : Engine} {client remote : Endpoint} (absent : e.session? client.text = none)
    (known : e.resolved = some remote)
    (size : Channel.canHave e.settings.outboundQueue.toNat = true) :
    Move now e (e.create now client remote)
  | enqueued {e : Engine} {s : Session} {d : Datagram}
    (live : e.session? d.source.text = some s) :
    Move now e (e.enqueue now s d.source.text d)
  | swept {e : Engine} {key : String} {s : Session} (live : e.session? key = some s)
    (idle : s.isIdle e.settings.idleTimeout now = true) : Move now e (e.evict key .idle)
  /-- A report leaves the channel. -/
  | reportTaken {e : Engine} {r : Report} {reports : Channel Report}
    (next : e.reports.next? = some (r, reports)) : Move now e { e with reports }
  | reported {e : Engine} {r : Report} {s : Session} (live : e.session? r.key = some s)
    (same : s.id = r.id) : Move now e (e.evict r.key (.failure r.reason))
  | stepped {e : Engine} {key : String} {s s' : Session} {input : TaskInput} {effect : Effect}
    (live : e.session? key = some s)
    (step : e.stepSession now s true input = some (s', effect)) :
    Move now e ((e.update key fun _ => s').apply now s effect)
  /-- A task of a removed session. -/
  | drained {e : Engine} {index : Nat} {s s' : Session} {input : TaskInput} {effect : Effect}
    (gone : e.removed[index]? = some s)
    (step : e.stepSession now s false input = some (s', effect)) :
    Move now e ({ e with removed := e.removed.set index s' }.apply now s effect)

abbrev Moves (now : Instant) : Engine → Engine → Prop := Relation.ReflTransGen (Move now)

theorem Moves.keeps {P : Engine → Prop} {now : Instant} {e e' : Engine} (moves : Moves now e e')
    (move : ∀ {e e'}, Move now e e' → P e → P e') (h : P e) : P e' := by
  induction moves with
  | refl => exact h
  | tail _ last ih => exact move last ih

/-! ## The manager -/

theorem handleDatagram_moves (e : Engine) (now : Instant) (o : Opening) (d : Datagram) :
    Moves now e (e.handleDatagram now o d) := by
  obtain ⟨s, live, eq⟩ | ⟨absent, ⟨error, eq⟩ | ⟨remote, found, h⟩⟩ :=
    e.handleDatagram_cases now o d
  · rw [eq]; exact .single (.enqueued live)
  · rw [eq]; exact .single (.refused error absent)
  · have known : Moves now e { e with resolved := some remote } := .single (.resolved found)
    obtain ⟨error, eq⟩ | ⟨size, eq⟩ | ⟨size, s, live, eq⟩ := h
    · rw [eq]; exact known.tail (.refused error absent)
    · rw [eq]; exact known.tail (.stopped size)
    · rw [eq]; exact (known.tail (.created absent rfl size)).tail (.enqueued live)

theorem settings_evict (e : Engine) (key : String) (reason : EvictionReason) :
    (e.evict key reason).settings = e.settings := by
  unfold evict
  split <;> rfl

theorem settings_move {now : Instant} {e e' : Engine} (m : Move now e e') :
    e'.settings = e.settings := by
  cases m with
  | received | readFailed | stalled | resolved | refused | stopped | created | reportTaken => rfl
  | enqueued live => exact enqueue_frame (·.settings) (by intros; rfl) _
  | swept | reported => exact settings_evict ..
  | stepped | drained => exact apply_frame (·.settings) (by intros; rfl)

theorem Moves.settings {now : Instant} {e e' : Engine} (moves : Moves now e e') :
    e'.settings = e.settings :=
  moves.keeps (P := fun e' => e'.settings = e.settings) (fun m h => (settings_move m).trans h) rfl

/-- A key that is gone through twice is idle or absent the second time. -/
theorem evictIdle_moves {now : Instant} (keys : List String) {e : Engine}
    (idle : ∀ k ∈ keys, ∀ s, e.session? k = some s →
      s.isIdle e.settings.idleTimeout now = true) :
    Moves now e (keys.foldl (fun e key => e.evict key .idle) e) := by
  induction keys generalizing e with
  | nil => exact .refl
  | cons k keys ih =>
    rw [List.foldl_cons]
    have rest := ih (e := e.evict k .idle) fun k' hk' s live => by
      rw [session?_evict] at live
      split at live
      · cases live
      · rw [settings_evict]
        exact idle k' (List.mem_cons_of_mem _ hk') s live
    cases live : e.session? k with
    | none =>
      have same : e.evict k .idle = e := by simp only [evict, live]
      rwa [same] at rest ⊢
    | some s => exact rest.head (.swept live (idle k List.mem_cons_self s live))

theorem isIdle_of_mem_idleKeys {e : Engine} {now : Instant} {order : List String} {key : String}
    {s : Session} (h : key ∈ e.idleKeys now order) (live : e.session? key = some s) :
    s.isIdle e.settings.idleTimeout now = true := by
  unfold idleKeys at h
  obtain ⟨-, h⟩ := List.mem_filter.mp h
  rw [live, Option.any_some] at h
  exact h

theorem sweep_moves (e : Engine) (now : Instant) (order : List String) :
    Moves now e (e.sweep now order) := by
  unfold sweep
  exact evictIdle_moves _ fun _ hk _ live => isIdle_of_mem_idleKeys hk live

theorem handleReport_moves (e : Engine) (now : Instant) (r : Report) :
    Moves now e (e.handleReport r) := by
  unfold handleReport
  split
  · next live =>
    split
    · next same => exact .single (.reported live same)
    · exact .refl
  · exact .refl

/-! ## Tasks -/

theorem everySession_apply (e : Engine) (now : Instant) (s : Session) (effect : Effect) :
    (e.apply now s effect).everySession = e.everySession :=
  apply_frame (·.everySession) (by intros; rfl)

theorem stepTask_cases {e e' : Engine} {now : Instant} {place : Place} {input : TaskInput}
    (h : e.stepTask now place input = some e') :
    (∃ key s s' effect, e.session? key = some s ∧
      e.stepSession now s true input = some (s', effect) ∧
      e' = (e.update key fun _ => s').apply now s effect) ∨
    (∃ index s s' effect, e.removed[index]? = some s ∧
      e.stepSession now s false input = some (s', effect) ∧
      e' = { e with removed := e.removed.set index s' }.apply now s effect) := by
  cases place with
  | live key =>
    simp only [stepTask, Option.bind_eq_bind, Option.bind_eq_some_iff, Option.pure_def] at h
    obtain ⟨s, live, ⟨s', effect⟩, step, h⟩ := h
    cases h
    exact .inl ⟨key, s, s', effect, live, step, rfl⟩
  | removed index =>
    simp only [stepTask, Option.bind_eq_bind, Option.bind_eq_some_iff, Option.pure_def] at h
    obtain ⟨s, gone, ⟨s', effect⟩, step, h⟩ := h
    cases h
    exact .inr ⟨index, s, s', effect, gone, step, rfl⟩

theorem stepTask_move {e e' : Engine} {now : Instant} {place : Place} {input : TaskInput}
    (h : e.stepTask now place input = some e') : Move now e e' := by
  obtain ⟨key, s, s', effect, live, step, rfl⟩ | ⟨index, s, s', effect, gone, step, rfl⟩ :=
    stepTask_cases h
  · exact .stepped live step
  · exact .drained gone step

theorem keys_stepTask {e e' : Engine} {now : Instant} {place : Place} {input : TaskInput}
    (h : e.stepTask now place input = some e') : e'.keys = e.keys := by
  obtain ⟨key, s, s', effect, -, -, rfl⟩ | ⟨index, s, s', effect, -, -, rfl⟩ := stepTask_cases h
  · exact (apply_frame (·.keys) (by intros; rfl)).trans (keys_update ..)
  · exact apply_frame (·.keys) (by intros; rfl)

/-! ## Engines and relays -/

theorem act_moves {e e' : Engine} {now : Instant} {a : Action} (h : e.act now a = some e') :
    Moves now e e' := by
  cases a with
  | sweep order =>
    simp only [act] at h
    split at h
    · cases h; exact sweep_moves e now order
    · cases h
  | report =>
    simp only [act] at h
    split at h
    · obtain ⟨⟨r, reports⟩, next, rfl⟩ := Option.map_eq_some_iff.mp h
      exact (handleReport_moves _ now r).head (.reportTaken next)
    · cases h
  | query =>
    simp only [act] at h
    split at h
    · cases h; exact .refl
    · cases h
  | task place input => exact .single (stepTask_move h)

/-- Whether the time that an input tells is `now`. A report tells none. -/
def Input.IsAt (now : Instant) : Input → Prop
  | .report _ => True
  | .datagram t _ _ | .sweep t _ | .query t | .task t _ _ => t = now

theorem handle_moves_at (e : Engine) {now : Instant} {i : Input} (isAt : i.IsAt now) :
    Moves now e (e.handle i) := by
  cases i with
  | datagram t o d =>
    cases isAt
    simp only [handle]
    split
    · exact handleDatagram_moves e now o d
    · exact .refl
  | sweep t order =>
    cases isAt
    simp only [handle]
    split
    · exact sweep_moves e now order
    · exact .refl
  | report r =>
    simp only [handle]
    split
    · exact handleReport_moves e now r
    · exact .refl
  | query t => exact .refl
  | task t place input =>
    cases isAt
    simp only [handle]
    cases h : e.stepTask now place input with
    | none => exact .refl
    | some e' => exact .single (stepTask_move h)

theorem handle_moves (e : Engine) (i : Input) : ∃ now, Moves now e (e.handle i) := by
  cases i with
  | report r => exact ⟨.zero, e.handle_moves_at trivial⟩
  | datagram now | sweep now | query now | task now => exact ⟨now, e.handle_moves_at rfl⟩

theorem run_keeps {P : Engine → Prop} (move : ∀ {now e e'}, Move now e e' → P e → P e')
    {e : Engine} (h : P e) (inputs : List Input) : P (e.run inputs) := by
  induction inputs generalizing e with
  | nil => exact h
  | cons i inputs ih =>
    obtain ⟨now, moves⟩ := e.handle_moves i
    exact ih (moves.keeps move h)

end Engine

namespace Listener

open Engine

variable {l : Listener} {cores : UInt64} {memory : Nat} {began : Instant} {start : Relay}

theorem start?_eq_some_iff : l.start? cores memory began = some start ↔
    l.hasChannels cores = true ∧
      Payload.canBuffer memory l.settings.maxDatagramSize = true ∧
      start = {
        listen := l.listen
        engine := (Engine.start l.target l.settings began).record l.started
        ingest := {
          capacity := (l.settings.ingestCapacity cores).toNat
          closed := !canSweep began l.settings.sweepInterval } } := by
  unfold start?
  simp only [Bool.and_eq_true]
  split
  · next possible =>
    refine ⟨fun h => ?_, fun ⟨_, _, h⟩ => by rw [h]; rfl⟩
    cases h
    exact ⟨possible.1, possible.2, rfl⟩
  · next impossible =>
    exact ⟨fun h => (by cases h), fun ⟨channels, buffer, _⟩ => absurd ⟨channels, buffer⟩ impossible⟩

theorem listen_of_start? (h : l.start? cores memory began = some start) :
    start.listen = l.listen := by
  obtain ⟨-, -, rfl⟩ := start?_eq_some_iff.mp h
  rfl

theorem engine_of_start? (h : l.start? cores memory began = some start) :
    start.engine = (Engine.start l.target l.settings began).record l.started := by
  obtain ⟨-, -, rfl⟩ := start?_eq_some_iff.mp h
  rfl

theorem eq_started_of_mem_lastWords {event : Event} (mem : event ∈ l.lastWords cores) :
    event = l.started := by
  unfold lastWords at mem
  split at mem
  · exact List.mem_singleton.mp mem
  · cases mem

end Listener

namespace Relay

open Engine

theorem handOn_moves (r : Relay) (d : Datagram) (now : Instant) :
    Moves now r.engine (r.handOn d).engine := by
  unfold handOn
  split
  · exact .refl
  · exact .refl
  · dsimp only
    split
    · exact .refl
    · exact .single (.stalled _ _)

theorem engine_follow (r : Relay) : r.follow.engine = r.engine := by
  unfold follow
  split <;> rfl

theorem isFree_iff {r : Relay} :
    r.isFree = true ↔ r.engine.running = true ∧ r.inHand = none := by
  rw [isFree, Bool.and_eq_true, Option.isNone_iff_eq_none]

section
variable {r r' : Relay} {now : Instant}

theorem act_take_eq_some (h : r.act now .take = some r') : r.isFree = true ∧
    ∃ d ingest, r.ingest.next? = some (d, ingest) ∧ r' = { r with ingest, inHand := some d } := by
  simp only [act] at h
  split at h
  · next free =>
    obtain ⟨⟨d, ingest⟩, next, rfl⟩ := Option.map_eq_some_iff.mp h
    exact ⟨free, d, ingest, next, rfl⟩
  · cases h

theorem act_finish_eq_some {o : Opening} (h : r.act now (.finish o) = some r') :
    r.engine.running = true ∧ ∃ d, r.inHand = some d ∧
      r' = { r with inHand := none, engine := r.engine.handleDatagram now o d }.follow := by
  simp only [act] at h
  split at h
  · next running =>
    obtain ⟨d, inHand, rfl⟩ := Option.map_eq_some_iff.mp h
    exact ⟨running, d, inHand, rfl⟩
  · cases h

theorem act_engine_eq_some {a : Engine.Action} (h : r.act now (.engine a) = some r') :
    ∃ e, (a.isTask || r.isFree) = true ∧ r.engine.act now a = some e ∧
      r' = { r with engine := e } := by
  simp only [act] at h
  split at h
  · next possible =>
    obtain ⟨e, step, rfl⟩ := Option.map_eq_some_iff.mp h
    exact ⟨e, possible, step, rfl⟩
  · cases h

end

theorem act_moves {r r' : Relay} {now : Instant} {a : Action} (h : r.act now a = some r') :
    Moves now r.engine r'.engine := by
  cases a with
  | receive d =>
    simp only [act] at h
    split at h
    · cases h
      exact (handOn_moves (r.note _) _ now).head (.received r.engine)
    · cases h
  | readFailed cause =>
    simp only [act] at h
    split at h
    · cases h; exact .single (.readFailed _ _ _)
    · cases h
  | handOver =>
    simp only [act] at h
    split at h
    · cases h
    · split at h
      · cases h; exact .refl
      · cases h; exact .refl
      · cases h
  | take =>
    obtain ⟨-, d, ingest, -, rfl⟩ := act_take_eq_some h
    exact .refl
  | finish o =>
    obtain ⟨-, d, -, rfl⟩ := act_finish_eq_some h
    rw [engine_follow]
    exact handleDatagram_moves r.engine now o d
  | engine a =>
    obtain ⟨e', -, step, rfl⟩ := act_engine_eq_some h
    exact Engine.act_moves step

/-- What the read loop does only adds events. -/
theorem handOn_adds (r : Relay) (d : Datagram) : ∃ stats more,
    (r.handOn d).engine = { r.engine with stats, log := r.engine.log ++ more } := by
  unfold handOn
  split
  · exact ⟨r.engine.stats, [], by simp⟩
  · exact ⟨r.engine.stats, [], by simp [fail]⟩
  · dsimp only
    split
    · exact ⟨r.engine.stats, [], by simp⟩
    · exact ⟨_, _, rfl⟩

/-- An action is one of the read loop, one of the manager with a datagram, or one of the engine. -/
theorem act_cases {r r' : Relay} {now : Instant} {a : Action} (h : r.act now a = some r') :
    (∃ stats more, r'.engine = { r.engine with stats, log := r.engine.log ++ more }) ∨
    (r.engine.running = true ∧ ∃ o d, r'.engine = r.engine.handleDatagram now o d) ∨
    ∃ input, a = .engine input ∧ r.engine.act now input = some r'.engine := by
  have same (r'' : Relay) (eq : r''.engine = r.engine) : ∃ stats more,
      r''.engine = { r.engine with stats, log := r.engine.log ++ more } :=
    ⟨r.engine.stats, [], by rw [eq, List.append_nil]⟩
  cases a with
  | receive d =>
    simp only [act] at h
    split at h
    · cases h
      obtain ⟨stats, more, same⟩ :=
        (r.note _).handOn_adds (d.truncate r.engine.settings.maxDatagramSize)
      exact .inl ⟨stats, more, same⟩
    · cases h
  | readFailed cause =>
    simp only [act] at h
    split at h
    · cases h; exact .inl ⟨_, _, rfl⟩
    · cases h
  | handOver =>
    simp only [act] at h
    split at h
    · cases h
    · split at h
      · cases h; exact .inl (same _ rfl)
      · cases h; exact .inl (same _ rfl)
      · cases h
  | take =>
    obtain ⟨-, d, ingest, -, rfl⟩ := act_take_eq_some h
    exact .inl (same _ rfl)
  | finish o =>
    obtain ⟨running, d, -, rfl⟩ := act_finish_eq_some h
    exact .inr (.inl ⟨running, o, d, engine_follow _⟩)
  | engine a =>
    obtain ⟨e', -, step, rfl⟩ := act_engine_eq_some h
    exact .inr (.inr ⟨a, rfl, step⟩)

/-- What holds of the engine at the start, survives the passing of time and is kept by every move
holds of the engine in every state that a relay reaches. -/
theorem Reachable.keeps {P : Instant → Engine → Prop} {start r : Relay} {t : Instant}
    (reached : Reachable start t r)
    (wait : ∀ {t now e}, t ≤ now → P t e → P now e)
    (move : ∀ {now e e'}, Move now e e' → P now e → P now e')
    (first : ∀ t, P t start.engine) : P t r.engine := by
  induction reached with
  | start t => exact first t
  | step _ later h ih => exact (act_moves h).keeps move (wait later ih)

def run? (r : Relay) (t : Instant) : List (Instant × Action) → Option (Instant × Relay)
  | [] => some (t, r)
  | (now, a) :: rest => if t ≤ now then (r.act now a).bind fun r' => r'.run? now rest else none

theorem Reachable.run? {start r r' : Relay} {t t' : Instant} (reached : Reachable start t r)
    {actions : List (Instant × Action)} (h : r.run? t actions = some (t', r')) :
    Reachable start t' r' := by
  induction actions generalizing r t with
  | nil => cases h; exact reached
  | cons p rest ih =>
    obtain ⟨now, a⟩ := p
    simp only [Relay.run?] at h
    split at h
    · next later =>
      obtain ⟨next, act, h⟩ := Option.bind_eq_some_iff.mp h
      exact ih (reached.step later act) h
    · cases h

/-- A run that can be computed leads to a state that is reachable. -/
theorem exists_reachable (l : Listener) (cores : UInt64) (memory : Nat)
    (actions : List (Instant × Action)) (check : Instant → Relay → Bool)
    (h : ((l.start? cores memory .zero).bind fun start => start.run? .zero actions).any
      (fun p => check p.1 p.2) = true) :
    ∃ start t r, l.start? cores memory .zero = some start ∧ Reachable start t r ∧
      check t r = true := by
  obtain ⟨⟨t, r⟩, ran, checked⟩ := (Option.any_eq_true _ _).mp h
  obtain ⟨start, started, ran⟩ := Option.bind_eq_some_iff.mp ran
  exact ⟨start, t, r, started, (Reachable.start .zero).run? ran, checked⟩

end Relay

end SocketRelay.Udp
