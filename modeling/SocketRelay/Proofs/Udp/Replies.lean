import SocketRelay.Proofs.Interleaving
import SocketRelay.Proofs.Udp.Forwarders
import SocketRelay.Proofs.Udp.Repliers
import SocketRelay.Proofs.Udp.SessionTable
import Mathlib.Data.List.Forall2

/-!
# Replies reach the client of their session

All sessions write to the one listener. What was written is an interleaving of
what the sessions answered, and a session answers with the beginning of what it
read from its own remote (`Engine.Replied`). So a client gets the answers of its
own sessions and no others, also when its sessions come and go. Main statement:
`Relay.Reachable.routesReplies`.
-/

namespace SocketRelay.Udp

open Net

def Effect.replies (s : Session) : Effect → List Delivery
  | .replied p => [s.delivery p]
  | .none | .forwarded | .failed .. => []

namespace Engine

variable {e e' : Engine} {now : Instant} {s s' : Session} {effect : Effect}

theorem apply_replied (e : Engine) (now : Instant) (s : Session) (effect : Effect) :
    (e.apply now s effect).delivered = e.delivered ++ effect.replies s ∧
      (e.apply now s effect).stats.replied =
        e.stats.replied + UInt64.ofNat (effect.replies s).length := by
  cases effect with
  | none | forwarded => exact ⟨(List.append_nil _).symm, (UInt64.add_zero _).symm⟩
  | replied p => exact ⟨rfl, rfl⟩
  | failed reason cause =>
    rw [apply, fail_eq]
    exact ⟨(List.append_nil _).symm, (UInt64.add_zero _).symm⟩

/-- A session answers what a step of its tasks writes. -/
theorem stepSession_answered {isOpen : Bool} {input : TaskInput}
    (h : e.stepSession now s isOpen input = some (s', effect)) :
    s'.answered = s.answered ++ effect.replies s := by
  have silent (same : s'.answered = s.answered) (none : effect.replies s = []) :
      s'.answered = s.answered ++ effect.replies s := by rw [same, none, List.append_nil]
  obtain ⟨i, f, moved, rfl⟩ | ⟨i, r, moved, -, rfl⟩ := stepSession_cases h
  · refine silent rfl ?_
    obtain ⟨_, _, -, -, -, rfl⟩ | ⟨_, -, -, rfl⟩ | ⟨_, _, -, -, rfl⟩ | ⟨-, -, -, -, rfl⟩ :=
      Forwarder.step_cases moved <;> rfl
  · obtain ⟨p, -, -, rfl, rfl⟩ | ⟨p, -, rfl, rfl⟩ | ⟨-, quiet, rest⟩ := Replier.step_traffic moved
    · exact silent rfl rfl
    · exact List.map_append
    · refine silent ?_ ?_
      · obtain rfl | ⟨phase, rfl, -⟩ := rest <;> rfl
      · cases effect with
        | replied p => exact absurd rfl (quiet p)
        | none | forwarded | failed => rfl

/-- One of the writers is a session that goes on. -/
theorem Replaced.interleaving {α : Type} {before after : List Session} {f : Session → List α}
    {out more : List α} (h : Replaced s s' before after) (written : Interleaving (before.map f) out)
    (goes_on : f s' = f s ++ more) : Interleaving (after.map f) (out ++ more) := by
  obtain ⟨left, right, rfl, rfl⟩ := h
  rw [List.map_append, List.map_cons] at written ⊢
  rw [goes_on]
  exact written.append more

structure Replied (e : Engine) : Prop where
  tracked : ∀ s ∈ e.everySession, s.replier.Tracked
  written : Interleaving (e.everySession.map Session.answered) e.delivered
  counted : e.stats.replied = UInt64.ofNat e.delivered.length

namespace Replied

theorem of_perm (h : Replied e) (every : e'.everySession.Perm e.everySession)
    (delivered : e'.delivered = e.delivered) (replied : e'.stats.replied = e.stats.replied) :
    Replied e' where
  tracked := fun s hs => h.tracked s (every.subset hs)
  written := delivered ▸ h.written.perm (every.symm.map _)
  counted := by rw [replied, delivered, h.counted]

/-- One session goes on, and what it answers is written. -/
theorem of_replaced (h : Replied e) (every : Replaced s s' e.everySession e'.everySession)
    (tracked : s'.replier.Tracked) (more : List Delivery)
    (answered : s'.answered = s.answered ++ more)
    (delivered : e'.delivered = e.delivered ++ more)
    (replied : e'.stats.replied = e.stats.replied + UInt64.ofNat more.length) : Replied e' where
  tracked := fun x hx => by
    rcases every.mem hx with rfl | hx
    · exact tracked
    · exact h.tracked x hx
  written := delivered ▸ every.interleaving h.written answered
  counted := by rw [replied, delivered, h.counted, List.length_append, UInt64.ofNat_add]

theorem create (h : Replied e) (now : Instant) (client remote : Endpoint) :
    Replied (e.create now client remote) := by
  refine ⟨fun x hx => ?_, ?_, h.counted⟩
  · rw [everySession_create] at hx
    rcases List.mem_append.mp hx with hx | hx
    · exact h.tracked x hx
    · rw [List.mem_singleton.mp hx]
      exact Replier.tracked_start
  · rw [everySession_create, List.map_append]
    exact h.written.append_empty fun l hl => List.mem_singleton.mp hl

theorem enqueue (h : Replied e) (table : Registered e) {d : Datagram}
    (live : e.session? d.source.text = some s) : Replied (e.enqueue now s d.source.text d) := by
  refine h.of_replaced (everySession_enqueue now d table.unique live)
    (h.tracked s (mem_everySession_of_session? live)) [] (List.append_nil _).symm ?_ ?_
  · rw [List.append_nil]
    exact enqueue_frame (·.delivered) (by intros; rfl) _
  · exact (enqueue_frame (·.stats.replied) (by intros; rfl) _).trans (UInt64.add_zero _).symm

theorem step (h : Replied e) {isOpen : Bool} {input : TaskInput}
    (step : e.stepSession now s isOpen input = some (s', effect)) {e₁ : Engine}
    (every : Replaced s s' e.everySession e₁.everySession)
    (same : e₁ = { e with table := e₁.table, removed := e₁.removed }) :
    Replied (e₁.apply now s effect) := by
  obtain ⟨delivered, replied⟩ := apply_replied e₁ now s effect
  rw [← everySession_apply e₁ now s effect] at every
  refine h.of_replaced every ?_ (effect.replies s) (stepSession_answered step) ?_ ?_
  · have tracked := h.tracked s every.mem_before
    obtain ⟨i, f, -, rfl⟩ | ⟨i, r, moved, -, rfl⟩ := stepSession_cases step
    · exact tracked
    · exact tracked.step moved
  · rw [delivered, same]
  · rw [replied, same]

theorem move (m : Move now e e') (table : Registered e) (h : Replied e) : Replied e' := by
  cases m with
  | received | readFailed | stalled | resolved | reportTaken =>
    exact ⟨h.tracked, h.written, h.counted⟩
  | refused error absent => exact h.of_perm (.refl _) rfl rfl
  | stopped size => exact h.of_perm (.of_eq (everySession_stop e)) rfl rfl
  | created absent known size => exact h.create now _ _
  | enqueued live => exact h.enqueue table live
  | swept live idle =>
    refine h.of_perm (everySession_evict table.unique live _) ?_ ?_ <;> rw [evict_eq live] <;> rfl
  | reported live same =>
    refine h.of_perm (everySession_evict table.unique live _) ?_ ?_ <;> rw [evict_eq live] <;> rfl
  | stepped live step =>
    exact h.step step (everySession_update table.unique live _) rfl
  | @drained index s s' input effect gone step =>
    exact h.step step (everySession_set gone s') rfl

end Replied

/-- What one session wrote, if its number tells it from the others. -/
theorem Registered.filter_id (h : Registered e) (few : e.everySession.length < UInt64.size)
    (hs : s ∈ e.everySession) {f : Session → List Delivery} {out : List Delivery}
    (written : Interleaving (e.everySession.map f) out)
    (named : ∀ s : Session, ∀ d ∈ f s, d.id = s.id) : out.filter (·.id = s.id) = f s := by
  have only := h.countP_of_few few hs (p := fun x => x.id = s.id)
    fun x same => of_decide_eq_true same
  rw [if_pos (decide_eq_true rfl), List.countP_eq_length_filter] at only
  obtain ⟨x, single⟩ := List.length_eq_one_iff.mp only
  have mem : s ∈ e.everySession.filter (·.id = s.id) :=
    List.mem_filter.mpr ⟨hs, decide_eq_true rfl⟩
  rw [single, List.mem_singleton] at mem
  have mine := written.select (fun x => x.id = s.id) (fun d => d.id = s.id)
    fun x _ d hd => by rw [named x d hd]
  rw [single, ← mem] at mine
  exact mine.eq_of_singleton

theorem Replied.ofSession (h : Replied e) (table : Registered e)
    (few : e.everySession.length < UInt64.size) (hs : s ∈ e.everySession) :
    e.delivered.filter (·.id = s.id) = s.answered :=
  table.filter_id few hs h.written fun _ _ hd => (Session.of_mem_answered hd).2

/-! ## Later states -/

/-- Each of these sessions goes on in the engine, in the table or out of it, besides others. -/
def GoesOn (sessions : List Session) (e : Engine) : Prop :=
  ∃ on more, e.everySession.Perm (on ++ more) ∧ List.Forall₂ Session.Continues sessions on

namespace GoesOn

variable {sessions : List Session}

theorem refl (e : Engine) : GoesOn e.everySession e :=
  ⟨e.everySession, [], by rw [List.append_nil],
    List.forall₂_same.mpr fun s _ => Session.Continues.refl s⟩

theorem of_perm (h : GoesOn sessions e) (every : e'.everySession.Perm e.everySession) :
    GoesOn sessions e' := by
  obtain ⟨on, more, same, continued⟩ := h
  exact ⟨on, more, every.trans same, continued⟩

theorem create (h : GoesOn sessions e) (now : Instant) (client remote : Endpoint) :
    GoesOn sessions (e.create now client remote) := by
  obtain ⟨on, more, same, continued⟩ := h
  have longer := same.append_right
    [Session.start (e.lastId + 1) client remote e.settings.outboundQueue.toNat now]
  rw [List.append_assoc, ← everySession_create] at longer
  exact ⟨on, _, longer, continued⟩

theorem next_at {l r : List Session}
    (h : List.Forall₂ Session.Continues sessions (l ++ s :: r)) (next : s.Continues s') :
    List.Forall₂ Session.Continues sessions (l ++ s' :: r) := by
  induction l generalizing sessions with
  | nil =>
    cases h with
    | cons first rest => exact .cons (first.trans next) rest
  | cons x l ih =>
    cases h with
    | cons first rest => exact .cons first (ih rest)

theorem of_replaced (h : GoesOn sessions e) (every : Replaced s s' e.everySession e'.everySession)
    (next : s.Continues s') : GoesOn sessions e' := by
  obtain ⟨on, more, same, continued⟩ := h
  obtain ⟨left, right, before, after⟩ := every
  rw [before] at same
  have mem : s ∈ on ++ more := same.subset (List.mem_append_right _ List.mem_cons_self)
  -- The session is one of those that went on, or one that was opened since.
  have moved (l r : List Session) (split : on ++ more = l ++ s :: r) :
      e'.everySession.Perm (l ++ s' :: r) := by
    rw [split] at same
    rw [after]
    exact perm_exchange same s'
  rcases List.mem_append.mp mem with mem | mem
  · obtain ⟨l, r, rfl⟩ := List.append_of_mem mem
    refine ⟨l ++ s' :: r, more, ?_, next_at continued next⟩
    rw [List.append_assoc, List.cons_append]
    exact moved l (r ++ more) (by rw [List.append_assoc, List.cons_append])
  · obtain ⟨l, r, rfl⟩ := List.append_of_mem mem
    refine ⟨on, l ++ s' :: r, ?_, continued⟩
    rw [← List.append_assoc]
    exact moved (on ++ l) r (by rw [List.append_assoc])

theorem move (m : Move now e e') (table : Registered e) (h : GoesOn sessions e) :
    GoesOn sessions e' := by
  have step {e₁ : Engine} {s s' : Session} {isOpen : Bool} {input : TaskInput} {effect : Effect}
      (step : e.stepSession now s isOpen input = some (s', effect))
      (every : Replaced s s' e.everySession e₁.everySession) :
      GoesOn sessions (e₁.apply now s effect) := by
    rw [← everySession_apply e₁ now s effect] at every
    exact h.of_replaced every (.step step)
  cases m with
  | received | readFailed | stalled | resolved | reportTaken | refused => exact h
  | stopped size => exact h.of_perm (.of_eq (everySession_stop e))
  | created absent known size => exact h.create now _ _
  | enqueued live => exact h.of_replaced (everySession_enqueue now _ table.unique live) (.taken ..)
  | swept live idle => exact h.of_perm (everySession_evict table.unique live _)
  | reported live same => exact h.of_perm (everySession_evict table.unique live _)
  | stepped live stepped => exact step stepped (everySession_update table.unique live _)
  | @drained index s s' input effect gone stepped => exact step stepped (everySession_set gone s')

theorem exists_of_mem (h : GoesOn sessions e) (mem : s ∈ sessions) :
    ∃ s' ∈ e.everySession, s.Continues s' := by
  obtain ⟨on, more, same, continued⟩ := h
  obtain ⟨k, inside, rfl⟩ := List.mem_iff_getElem.mp mem
  have inside' : k < on.length := continued.length_eq ▸ inside
  refine ⟨on[k], same.symm.subset (List.mem_append_left _ (List.getElem_mem inside')), ?_⟩
  exact continued.get inside inside'

theorem length_le (h : GoesOn sessions e) : sessions.length ≤ e.everySession.length := by
  obtain ⟨on, more, same, continued⟩ := h
  rw [same.length_eq, List.length_append, continued.length_eq]
  omega

end GoesOn

end Engine

namespace Relay

open Engine

theorem Reachable.replied_keeps {start r : Relay} {t : Instant} (reached : Reachable start t r)
    (table : Registered start.engine) (replied : Replied start.engine) :
    Registered r.engine ∧ Replied r.engine :=
  reached.keeps (P := fun _ e => Registered e ∧ Replied e) (fun _ h => h)
    (fun m h => ⟨h.1.move m, h.2.move m h.1⟩) fun _ => ⟨table, replied⟩

theorem Reachable.replied {l : Listener} {cores : UInt64} {memory : Nat} {began t : Instant}
    {start r : Relay} (started : l.start? cores memory began = some start)
    (reached : Reachable start t r) :
    Registered r.engine ∧ Replied r.engine := by
  refine reached.replied_keeps ?_ ?_ <;> rw [Listener.engine_of_start? started]
  · exact (registered_start l.target l.settings began).record _
  · exact ⟨fun _ hs => absurd hs List.not_mem_nil, .none fun _ hl => absurd hl List.not_mem_nil,
      rfl⟩

theorem Reachable.goesOn {start r : Relay} {t : Instant} (reached : Reachable start t r)
    (table : Registered start.engine) : GoesOn start.engine.everySession r.engine :=
  (reached.keeps (P := fun _ e => Registered e ∧ GoesOn start.engine.everySession e)
    (fun _ h => h) (fun m h => ⟨h.1.move m, h.2.move m h.1⟩) fun _ => ⟨table, .refl _⟩).2

/-- How replies get from the remotes to the clients. -/
structure RoutesReplies (r : Relay) : Prop where
  /-- A client gets what its own sessions answer, and nothing else. -/
  toClient : ∀ client,
    Interleaving ((r.engine.everySession.filter (·.client = client)).map Session.answered)
      (r.engine.delivered.filter (·.client = client))
  /-- As long as numbers have not run out, what one session wrote can be told. -/
  ofSession : r.engine.everySession.length < UInt64.size → ∀ s ∈ r.engine.everySession,
    r.engine.delivered.filter (·.id = s.id) = s.answered
  answered_isPrefix : ∀ s ∈ r.engine.everySession, s.replier.answered <+: s.replier.heard
  counted : r.engine.stats.replied = UInt64.ofNat r.engine.delivered.length
  /-- A replier that fails to read or to write, or gives its client up, has ended. -/
  givenUp : ∀ s ∈ r.engine.everySession, ∀ now isOpen input s' reason cause,
    r.engine.stepSession now s isOpen input = some (s', .failed reason cause) →
    reason ≠ .write → s'.replier.isAlive = false
  later : ∀ t r', Reachable r t r' → GoesOn r.engine.everySession r'.engine
  /-- Nothing is written any more by a replier that has ended. -/
  silent : ∀ s ∈ r.engine.everySession, s.replier.isAlive = false → ∀ t r', Reachable r t r' →
    r'.engine.everySession.length < UInt64.size →
    r'.engine.delivered.filter (·.id = s.id) = r.engine.delivered.filter (·.id = s.id)

theorem Reachable.routesReplies {l : Listener} {cores : UInt64} {memory : Nat} {began t : Instant}
    {start r : Relay} (started : l.start? cores memory began = some start)
    (reached : Reachable start t r) : r.RoutesReplies := by
  obtain ⟨registered, replied⟩ := reached.replied started
  refine ⟨fun client => ?_, fun few s hs => replied.ofSession registered few hs,
    fun s hs => (replied.tracked s hs).answered_isPrefix, replied.counted, ?_,
    fun t r' later => later.goesOn registered, ?_⟩
  · refine replied.written.select _ _ fun s _ d hd => ?_
    rw [(Session.of_mem_answered hd).1]
  · intro s _ now isOpen input s' reason cause step other
    obtain ⟨i, f, moved, -⟩ | ⟨i, x, moved, -, rfl⟩ := stepSession_cases step
    · obtain ⟨-, others⟩ | ⟨-, -, cause', failed⟩ := Forwarder.step_failed moved
      · exact absurd rfl (others reason cause)
      · cases failed
        exact absurd rfl other
    · exact Replier.ended_of_failed moved
  · intro s hs ended t r' later few
    obtain ⟨registered', replied'⟩ := later.replied_keeps registered replied
    have goesOn := later.goesOn registered
    obtain ⟨s', hs', next⟩ := goesOn.exists_of_mem hs
    have same : s'.answered = s.answered := by
      rw [Session.answered, next.ended ended, Session.answered]
      exact List.map_congr_left fun p _ => by rw [Session.delivery, next.client, next.id]; rfl
    have few' := Nat.lt_of_le_of_lt goesOn.length_le few
    rw [replied.ofSession registered few' hs, ← same, ← next.id]
    exact replied'.ofSession registered' few hs'

def sharedListener : Listener := ⟨.v4 ⟨127, 0, 0, 1⟩ 7000, "example.net:53", {}⟩

/-- A client comes back after a sweep, and the replier of its first session is still there; another
session cannot write. -/
def sharedActions : List (Instant × Action) :=
  let a : Endpoint := .v4 ⟨10, 0, 0, 1⟩ 4001
  let b : Endpoint := .v4 ⟨10, 0, 0, 2⟩ 4001
  let free : Opening := ⟨.ok [.v4 ⟨192, 0, 2, 1⟩ 53], .ok ()⟩
  let live (client : Endpoint) (input : TaskInput) : Action :=
    .engine (.task (.live client.text) input)
  let removed (index : Nat) (input : TaskInput) : Action := .engine (.task (.removed index) input)
  [(.ofMillis 1, .receive ⟨a, [1]⟩), (.ofMillis 1, .take), (.ofMillis 1, .finish free),
   (.ofMillis 2, .receive ⟨b, [2]⟩), (.ofMillis 2, .take), (.ofMillis 2, .finish free),
   (.ofMillis 3, live a (.heard [11])), (.ofMillis 3, live b (.heard [21])),
   (.ofMillis 4, live b .responded), (.ofMillis 5, live b (.heard [22])),
   (.ofMillis 62000, .engine (.sweep [a.text, b.text])),
   (.ofMillis 62001, .receive ⟨a, [3]⟩), (.ofMillis 62001, .take), (.ofMillis 62001, .finish free),
   (.ofMillis 62002, removed 0 .responded), (.ofMillis 62002, live a (.heard [31])),
   (.ofMillis 62003, removed 1 (.respondFailed .networkUnreachable)),
   (.ofMillis 62004, live a .responded)]

theorem routesReplies_shared : ∃ start t r, sharedListener.start? 1 65536 .zero = some start ∧
    Reachable start t r ∧ r.RoutesReplies ∧ r.engine.everySession.length = 3 ∧
    r.engine.delivered =
      [⟨.v4 ⟨10, 0, 0, 2⟩ 4001, 2, [21]⟩, ⟨.v4 ⟨10, 0, 0, 1⟩ 4001, 1, [11]⟩,
        ⟨.v4 ⟨10, 0, 0, 1⟩ 4001, 3, [31]⟩] := by
  obtain ⟨start, t, r, started, reached, shape⟩ :=
    exists_reachable sharedListener 1 65536 sharedActions
      (fun _ r => r.engine.everySession.length == 3 && r.engine.delivered ==
        [⟨.v4 ⟨10, 0, 0, 2⟩ 4001, 2, [21]⟩, ⟨.v4 ⟨10, 0, 0, 1⟩ 4001, 1, [11]⟩,
          ⟨.v4 ⟨10, 0, 0, 1⟩ 4001, 3, [31]⟩]) (by decide +kernel)
  simp only [Bool.and_eq_true, beq_iff_eq] at shape
  exact ⟨start, t, r, started, reached, reached.routesReplies started, shape⟩

end Relay

end SocketRelay.Udp
