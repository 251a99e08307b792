import SocketRelay.Proofs.Udp.Forwarding
import SocketRelay.Proofs.Udp.Replies

/-!
# Datagrams and receive buffers

A receive buffer keeps the beginning of a datagram that is longer than it. What
a relay sends on, to remotes and to clients, is what the buffer kept, so a long
datagram is relayed without its end (`Relay.relays_shortened`) and one that fits
is relayed as it is. Main statement: `Relay.run_relaysTruncated`.
-/

namespace SocketRelay.Udp

open Net

theorem Payload.truncate_of_le {p : Payload} {size : UInt64} (fits : p.length ≤ size.toNat) :
    p.truncate size = p := List.take_of_length_le fits

def Delivery.truncate (d : Delivery) (size : UInt64) : Delivery :=
  { d with payload := d.payload.truncate size }

theorem Delivery.truncate_of_le {d : Delivery} {size : UInt64}
    (fits : d.payload.length ≤ size.toNat) : d.truncate size = d := by
  rw [truncate, Payload.truncate_of_le fits]

theorem payloadsFrom_truncate (client : Endpoint) (ds : List Datagram) (size : UInt64) :
    payloadsFrom client (ds.map (·.truncate size)) =
      (payloadsFrom client ds).map (Payload.truncate · size) := by
  unfold payloadsFrom
  rw [List.filter_map, List.map_map, List.map_map]
  rfl

theorem payloadsFrom_truncate_of_le (client : Endpoint) {ds : List Datagram} {size : UInt64}
    (fit : ∀ d ∈ ds, d.payload.length ≤ size.toNat) :
    (payloadsFrom client ds).map (Payload.truncate · size) = payloadsFrom client ds := by
  refine (List.map_congr_left fun p hp => ?_).trans (List.map_id _)
  obtain ⟨d, hd, rfl⟩ := List.mem_map.mp hp
  exact Payload.truncate_of_le (fit d (List.mem_filter.mp hd).1)

namespace Engine

variable {e e' : Engine} {now : Instant} {s s' : Session}

def at? (e : Engine) : Place → Option Session
  | .live key => e.session? key
  | .removed index => e.removed[index]?

def TaskInput.arrived : TaskInput → List Payload
  | .heard p => [p]
  | .forwarder _ | .readFailed _ | .readDeadline | .responded | .respondFailed _ | .shutdown => []

theorem stepSession_heard {isOpen : Bool} {input : TaskInput} {effect : Effect}
    (h : e.stepSession now s isOpen input = some (s', effect)) :
    s'.heard = s.heard ++
      (input.arrived.map s.delivery).map (·.truncate e.settings.maxDatagramSize) := by
  have quiet {i : ReplierInput} (other : ∀ p, i ≠ .heard p)
      (step : stepSession.replier e s i = some (s', effect)) : s'.heard = s.heard ++ [] := by
    obtain ⟨⟨r, effect'⟩, moved, same⟩ := Option.map_eq_some_iff.mp step
    cases same
    rw [List.append_nil]
    exact congrArg (List.map s.delivery) (Replier.step_heard moved other)
  cases input with
  | heard p =>
    obtain ⟨⟨r, effect'⟩, moved, same⟩ := Option.map_eq_some_iff.mp h
    cases same
    simp only [Replier.step] at moved
    split at moved
    · cases moved; exact List.map_append
    · cases moved
  | forwarder i =>
    obtain ⟨⟨f, effect'⟩, moved, same⟩ := Option.map_eq_some_iff.mp h
    cases same
    exact (List.append_nil _).symm
  | shutdown =>
    simp only [stepSession] at h
    split at h
    · cases h
    · exact quiet (fun _ eq => by cases eq) h
  | readFailed | readDeadline | responded | respondFailed =>
    exact quiet (fun _ eq => by cases eq) h

theorem stepTask_at (table : Registered e) {place : Place} {input : TaskInput}
    (h : e.stepTask now place input = some e') :
    ∃ s s' isOpen effect, e.at? place = some s ∧
      e.stepSession now s isOpen input = some (s', effect) ∧
      Replaced s s' e.everySession e'.everySession := by
  cases place with
  | live key =>
    simp only [stepTask, Option.bind_eq_bind, Option.bind_eq_some_iff, Option.pure_def] at h
    obtain ⟨s, live, ⟨s', effect⟩, step, h⟩ := h
    cases h
    refine ⟨s, s', true, effect, live, step, ?_⟩
    rw [everySession_apply]
    exact everySession_update table.unique live _
  | removed index =>
    simp only [stepTask, Option.bind_eq_bind, Option.bind_eq_some_iff, Option.pure_def] at h
    obtain ⟨s, gone, ⟨s', effect⟩, step, h⟩ := h
    cases h
    refine ⟨s, s', false, effect, gone, step, ?_⟩
    rw [everySession_apply]
    exact everySession_set gone s'

theorem Replied.answered_isPrefix (h : Replied e) (hs : s ∈ e.everySession) :
    s.answered <+: s.heard := (h.tracked s hs).answered_isPrefix.map _

/-- What was written to clients was read from remotes. -/
theorem Replied.mem_heard (h : Replied e) {out : List Delivery}
    (heard : Interleaving (e.everySession.map Session.heard) out) {d : Delivery}
    (hd : d ∈ e.delivered) : d ∈ out := by
  obtain ⟨_, listed, hd⟩ := List.mem_flatten.mp (h.written.flatten_perm.subset hd)
  obtain ⟨s, hs, rfl⟩ := List.mem_map.mp listed
  have read := (h.answered_isPrefix hs).subset hd
  exact (heard.sublist (List.mem_map_of_mem hs)).subset read

/-! ## What does not read from remotes -/

/-- The sessions have read the same from their remotes, and there may be new ones. -/
def Quiet (e e' : Engine) : Prop :=
  ∃ more, (e'.everySession.map Session.heard).Perm (e.everySession.map Session.heard ++ more) ∧
    ∀ l ∈ more, l = []

namespace Quiet

theorem interleaving (h : Quiet e e') {out : List Delivery}
    (read : Interleaving (e.everySession.map Session.heard) out) :
    Interleaving (e'.everySession.map Session.heard) out := by
  obtain ⟨more, same, empty⟩ := h
  exact (read.append_empty empty).perm same.symm

theorem of_perm (every : e'.everySession.Perm e.everySession) : Quiet e e' :=
  ⟨[], by rw [List.append_nil]; exact every.map _, fun _ hl => absurd hl List.not_mem_nil⟩

theorem trans {e₁ e₂ e₃ : Engine} (h : Quiet e₁ e₂) (h' : Quiet e₂ e₃) : Quiet e₁ e₃ := by
  obtain ⟨more, same, empty⟩ := h
  obtain ⟨more', same', empty'⟩ := h'
  refine ⟨more ++ more', ?_, fun l hl => (List.mem_append.mp hl).elim (empty l) (empty' l)⟩
  rw [← List.append_assoc]
  exact same'.trans (same.append_right _)

theorem create (e : Engine) (now : Instant) (client remote : Endpoint) :
    Quiet e (e.create now client remote) := by
  refine ⟨[[]], ?_, fun l hl => List.mem_singleton.mp hl⟩
  rw [everySession_create, List.map_append]
  exact .refl _

theorem enqueue (table : Registered e) {d : Datagram} (live : e.session? d.source.text = some s) :
    Quiet e (e.enqueue now s d.source.text d) := by
  have every := everySession_enqueue now d table.unique live
  refine ⟨[], ?_, fun _ hl => absurd hl List.not_mem_nil⟩
  rw [List.append_nil, every.map_eq rfl]

theorem handleDatagram (table : Registered e) (o : Opening) (d : Datagram) :
    Quiet e (e.handleDatagram now o d) := by
  obtain ⟨s, live, eq⟩ | ⟨absent, ⟨error, eq⟩ | ⟨remote, -, h⟩⟩ := e.handleDatagram_cases now o d
  · rw [eq]; exact enqueue table live
  · rw [eq]; exact of_perm (.refl _)
  · obtain ⟨error, eq⟩ | ⟨-, eq⟩ | ⟨size, s, live, eq⟩ := h
    · rw [eq]; exact of_perm (.refl _)
    · rw [eq]; exact of_perm (.of_eq (everySession_stop { e with resolved := some remote }))
    · rw [eq]
      exact (create { e with resolved := some remote } now d.source remote).trans
        (enqueue ((table.found remote).create now absent size) live)

theorem evictAll (table : Registered e) (keys : List String) :
    Quiet e (keys.foldl (fun e key => e.evict key .idle) e) := by
  induction keys generalizing e with
  | nil => exact of_perm (.refl _)
  | cons key keys ih =>
    rw [List.foldl_cons]
    cases live : e.session? key with
    | none =>
      have same : e.evict key .idle = e := by simp only [evict, live]
      rw [same]
      exact ih table
    | some s =>
      have first := of_perm (everySession_evict table.unique live .idle)
      exact first.trans (ih (table.evict live .idle))

theorem handleReport (table : Registered e) (r : Report) : Quiet e (e.handleReport r) := by
  unfold Engine.handleReport
  split
  · next live =>
    split
    · exact of_perm (everySession_evict table.unique live _)
    · exact of_perm (.refl _)
  · exact of_perm (.refl _)

/-- Of all that an engine does, only its sessions' tasks read from remotes. -/
theorem act (table : Registered e) {a : Action} (h : e.act now a = some e')
    (other : ∀ place input, a ≠ .task place input) : Quiet e e' := by
  cases a with
  | sweep order =>
    simp only [Engine.act] at h
    split at h
    · cases h; exact evictAll table _
    · cases h
  | report =>
    simp only [Engine.act] at h
    split at h
    · obtain ⟨⟨r, reports⟩, -, rfl⟩ := Option.map_eq_some_iff.mp h
      have taken : Registered { e with reports } :=
        table.of_same rfl table.named rfl rfl rfl rfl rfl rfl
      exact handleReport taken r
    · cases h
  | query =>
    simp only [Engine.act] at h
    split at h
    · cases h; exact of_perm (.refl _)
    · cases h
  | task place input => exact absurd rfl (other place input)

end Quiet

end Engine

namespace Relay

open Engine

variable {r r' : Relay} {now : Instant} {a : Action}

/-- What comes to the listener. -/
def Action.arrived : Action → List Datagram
  | .receive d => [d]
  | .readFailed _ | .handOver | .take | .finish _ | .engine _ => []

/-- What comes to the socket of a session, as a datagram for the session's client. -/
def replyTo (r : Relay) : Action → List Delivery
  | .engine (.task place input) =>
    (r.engine.at? place).toList.flatMap fun s => input.arrived.map s.delivery
  | _ => []

theorem received_handOn (r : Relay) (d : Datagram) : (r.handOn d).received = r.received := by
  unfold handOn
  split
  · rfl
  · rfl
  · dsimp only
    split <;> rfl

theorem act_received (h : r.act now a = some r') :
    r'.received = r.received ++ a.arrived.map (·.truncate r.engine.settings.maxDatagramSize) := by
  cases a with
  | receive d =>
    simp only [act] at h
    split at h
    · cases h; exact received_handOn ..
    · cases h
  | readFailed cause =>
    simp only [act] at h
    split at h
    · cases h; exact (List.append_nil _).symm
    · cases h
  | handOver =>
    simp only [act] at h
    split at h
    · cases h
    · split at h
      · cases h; exact (List.append_nil _).symm
      · cases h; exact (List.append_nil _).symm
      · cases h
  | take =>
    obtain ⟨-, d, ingest, -, rfl⟩ := act_take_eq_some h
    exact (List.append_nil _).symm
  | finish o =>
    obtain ⟨-, d, -, rfl⟩ := act_finish_eq_some h
    unfold follow
    split <;> exact (List.append_nil _).symm
  | engine a =>
    obtain ⟨e', -, -, rfl⟩ := act_engine_eq_some h
    exact (List.append_nil _).symm

theorem act_heard (table : Registered r.engine) (h : r.act now a = some r') {out : List Delivery}
    (read : Interleaving (r.engine.everySession.map Session.heard) out) :
    Interleaving (r'.engine.everySession.map Session.heard)
      (out ++ (r.replyTo a).map (·.truncate r.engine.settings.maxDatagramSize)) := by
  have quiet (eq : r.replyTo a = []) (h : Quiet r.engine r'.engine) :
      Interleaving (r'.engine.everySession.map Session.heard)
        (out ++ (r.replyTo a).map (·.truncate r.engine.settings.maxDatagramSize)) := by
    rw [eq, List.map_nil, List.append_nil]
    exact h.interleaving read
  cases a with
  | engine a =>
    obtain ⟨e', -, step, rfl⟩ := act_engine_eq_some h
    cases a with
    | task place input =>
      obtain ⟨s, s', isOpen, effect, here, moved, every⟩ := stepTask_at table step
      have reply : r.replyTo (.engine (.task place input)) = input.arrived.map s.delivery := by
        simp only [replyTo, here, Option.toList_some, List.flatMap_singleton]
      rw [reply]
      exact every.interleaving read (stepSession_heard moved)
    | sweep | report | query =>
      exact quiet rfl (.act table step fun _ _ eq => by cases eq)
  | receive | readFailed | handOver | take | finish =>
    refine quiet rfl ?_
    obtain ⟨stats, more, eq⟩ | ⟨-, o, d, eq⟩ | ⟨a, eq, -⟩ := act_cases h
    · rw [eq]; exact .of_perm (.refl _)
    · rw [eq]; exact .handleDatagram table o d
    · cases eq

theorem act_settings (h : r.act now a = some r') : r'.engine.settings = r.engine.settings :=
  (act_moves h).settings

/-! ## Runs -/

def arrivals (actions : List (Instant × Action)) : List Datagram :=
  actions.flatMap (·.2.arrived)

def replies (r : Relay) : List (Instant × Action) → List Delivery
  | [] => []
  | (now, a) :: rest => r.replyTo a ++ (r.act now a).elim [] (·.replies rest)

/-- What a relay has read, of what came. -/
structure HasRead (r : Relay) (size : UInt64) (arrivals : List Datagram) (replies : List Delivery) :
    Prop where
  table : Registered r.engine
  size_eq : r.engine.settings.maxDatagramSize = size
  received : r.received = arrivals.map (·.truncate size)
  heard : Interleaving (r.engine.everySession.map Session.heard) (replies.map (·.truncate size))

theorem HasRead.run {size : UInt64} {ds : List Datagram} {rs : List Delivery}
    (h : r.HasRead size ds rs) {t t' : Instant} {actions : List (Instant × Action)}
    (ran : r.run? t actions = some (t', r')) :
    r'.HasRead size (ds ++ arrivals actions) (rs ++ r.replies actions) := by
  induction actions generalizing r t ds rs with
  | nil =>
    cases ran
    rw [arrivals, List.flatMap_nil, replies, List.append_nil, List.append_nil]
    exact h
  | cons next rest ih =>
    obtain ⟨now, a⟩ := next
    simp only [Relay.run?] at ran
    split at ran
    · obtain ⟨between, act, ran⟩ := Option.bind_eq_some_iff.mp ran
      have received := act_received act
      have heard := act_heard h.table act h.heard
      rw [h.size_eq, h.received, ← List.map_append] at received
      rw [h.size_eq, ← List.map_append] at heard
      have step : between.HasRead size (ds ++ a.arrived) (rs ++ r.replyTo a) :=
        ⟨(act_moves act).keeps Registered.move h.table,
          (congrArg (·.maxDatagramSize) (act_settings act)).trans h.size_eq, received, heard⟩
      have := ih step ran
      rw [List.append_assoc, List.append_assoc] at this
      rwa [replies, act]
    · cases ran

/-- What a relay sends on is what its receive buffers kept of what came. -/
structure RelaysTruncated (r : Relay) (size : UInt64) (arrivals : List Datagram)
    (replies : List Delivery) : Prop where
  received : r.received = arrivals.map (·.truncate size)
  sent : ∀ s ∈ r.engine.everySession,
    s.forwarder.sent.Sublist ((payloadsFrom s.client arrivals).map (Payload.truncate · size))
  sent_whole : (∀ d ∈ arrivals, d.payload.length ≤ size.toNat) → ∀ s ∈ r.engine.everySession,
    s.forwarder.sent.Sublist (payloadsFrom s.client arrivals)
  heard : Interleaving (r.engine.everySession.map Session.heard) (replies.map (·.truncate size))
  answered_isPrefix : ∀ s ∈ r.engine.everySession, s.answered <+: s.heard
  delivered : ∀ d ∈ r.engine.delivered, ∃ reply ∈ replies, reply.truncate size = d
  delivered_whole : (∀ d ∈ replies, d.payload.length ≤ size.toNat) →
    ∀ d ∈ r.engine.delivered, d ∈ replies
  /-- As long as numbers have not run out, the replies of one session can be told. -/
  ofSession : r.engine.everySession.length < UInt64.size → ∀ s ∈ r.engine.everySession,
    r.engine.delivered.filter (·.id = s.id) <+:
      (replies.filter (·.id = s.id)).map (·.truncate size)

theorem hasRead_start {l : Listener} {cores : UInt64} {memory : Nat} {began : Instant}
    {start : Relay} (started : l.start? cores memory began = some start) :
    start.HasRead l.settings.maxDatagramSize [] [] := by
  have engine := Listener.engine_of_start? started
  simp only [Listener.start?] at started
  split at started
  · cases started
    exact ⟨(registered_start l.target l.settings began).record _, rfl, rfl,
      .none fun _ hl => absurd hl List.not_mem_nil⟩
  · cases started

theorem Reachable.sent_sublist {l : Listener} {cores : UInt64} {memory : Nat} {began t : Instant}
    {start r : Relay} (started : l.start? cores memory began = some start)
    (reached : Reachable start t r) {s : Session} (hs : s ∈ r.engine.everySession) :
    s.forwarder.sent.Sublist (payloadsFrom s.client r.received) := by
  obtain ⟨-, accounted⟩ := reached.accounted started
  have sent : s.forwarder.sent <+: s.forwarder.accepted := by
    rw [(accounted.tracked s hs).accounted]
    exact List.prefix_append ..
  have accepted := (reached.ordered started).accepted s hs
  have handled := (reached.inOrder (inOrder_start started)).handled_isPrefix
  exact sent.sublist.trans (accepted.trans (payloadsFrom_isPrefix _ handled).sublist)

theorem run_relaysTruncated {l : Listener} {cores : UInt64} {memory : Nat} {began since t : Instant}
    {start r : Relay} {actions : List (Instant × Action)}
    (started : l.start? cores memory began = some start)
    (ran : start.run? since actions = some (t, r)) :
    r.RelaysTruncated l.settings.maxDatagramSize (arrivals actions) (start.replies actions) := by
  have reached := (Reachable.start since).run? ran
  obtain ⟨table, replied⟩ := reached.replied started
  obtain ⟨-, -, received, heard⟩ := (hasRead_start started).run ran
  rw [List.nil_append] at received heard
  have sent : ∀ s ∈ r.engine.everySession, s.forwarder.sent.Sublist
      ((payloadsFrom s.client (arrivals actions)).map
        (Payload.truncate · l.settings.maxDatagramSize)) := fun s hs => by
    have sent := reached.sent_sublist started hs
    rwa [received, payloadsFrom_truncate] at sent
  have delivered : ∀ d ∈ r.engine.delivered, ∃ reply ∈ start.replies actions,
      reply.truncate l.settings.maxDatagramSize = d := fun d hd =>
    List.mem_map.mp (replied.mem_heard heard hd)
  refine ⟨received, sent, fun fit s hs => ?_, heard, fun s hs => replied.answered_isPrefix hs,
    delivered, fun fit d hd => ?_, fun few s hs => ?_⟩
  · rw [← payloadsFrom_truncate_of_le s.client fit]
    exact sent s hs
  · obtain ⟨reply, came, rfl⟩ := delivered d hd
    rwa [Delivery.truncate_of_le (fit reply came)]
  · have mine := table.filter_id few hs heard fun s d hd => (Session.of_mem_heard hd).2
    rw [List.filter_map] at mine
    rw [replied.ofSession table few hs]
    exact mine ▸ replied.answered_isPrefix hs

def tightListener : Listener :=
  ⟨.v4 ⟨127, 0, 0, 1⟩ 7000, "example.net:53", { maxDatagramSize := 3 }⟩

/-- A datagram of four bytes from a client, and six bytes in reply. -/
def longActions : List (Instant × Action) :=
  let a : Endpoint := .v4 ⟨10, 0, 0, 1⟩ 4001
  let task (input : TaskInput) : Action := .engine (.task (.live a.text) input)
  [(.ofMillis 1, .receive ⟨a, [1, 2, 3, 4]⟩),
   (.ofMillis 1, .take), (.ofMillis 1, .finish ⟨.ok [.v4 ⟨192, 0, 2, 1⟩ 53], .ok ()⟩),
   (.ofMillis 2, task (.forwarder .take)), (.ofMillis 2, task (.forwarder .written)),
   (.ofMillis 3, task (.heard [97, 98, 99, 100, 101, 102])), (.ofMillis 3, task .responded)]

theorem exists_long_run : ∃ start t r, tightListener.start? 1 65536 .zero = some start ∧
    start.run? .zero longActions = some (t, r) ∧
    r.engine.everySession.map (·.forwarder.sent) = [[[1, 2, 3]]] ∧
    start.replies longActions = [⟨.v4 ⟨10, 0, 0, 1⟩ 4001, 1, [97, 98, 99, 100, 101, 102]⟩] ∧
    r.engine.delivered = [⟨.v4 ⟨10, 0, 0, 1⟩ 4001, 1, [97, 98, 99]⟩] := by
  have run : ((tightListener.start? 1 65536 .zero).bind fun start =>
      (start.run? .zero longActions).map fun p => (start, p.2)).any (fun p =>
        p.2.engine.everySession.map (·.forwarder.sent) == [[[1, 2, 3]]] &&
        p.1.replies longActions ==
          [⟨.v4 ⟨10, 0, 0, 1⟩ 4001, 1, [97, 98, 99, 100, 101, 102]⟩] &&
        p.2.engine.delivered == [⟨.v4 ⟨10, 0, 0, 1⟩ 4001, 1, [97, 98, 99]⟩]) = true := by
    decide +kernel
  obtain ⟨⟨start', r'⟩, bound, shape⟩ := (Option.any_eq_true _ _).mp run
  obtain ⟨start, started, mapped⟩ := Option.bind_eq_some_iff.mp bound
  obtain ⟨⟨t, r⟩, ran, same⟩ := Option.map_eq_some_iff.mp mapped
  obtain ⟨rfl, rfl⟩ := Prod.mk.inj same
  simp only [Bool.and_eq_true, beq_iff_eq] at shape
  exact ⟨start, t, r, started, ran, shape.1.1, shape.1.2, shape.2⟩

theorem relaysTruncated_long : ∃ start t r, tightListener.start? 1 65536 .zero = some start ∧
    start.run? .zero longActions = some (t, r) ∧
    r.RelaysTruncated 3 (arrivals longActions) (start.replies longActions) := by
  obtain ⟨start, t, r, started, ran, -⟩ := exists_long_run
  exact ⟨start, t, r, started, ran, run_relaysTruncated started ran⟩

/-- Settings that are fit to run with, under which both are relayed without their ends. -/
theorem relays_shortened : ∃ start t r, tightListener.settings.check = .ok () ∧
    tightListener.start? 1 65536 .zero = some start ∧ start.run? .zero longActions = some (t, r) ∧
    (∃ d ∈ arrivals longActions, d.payload = [1, 2, 3, 4]) ∧
    (∃ s ∈ r.engine.everySession, [1, 2, 3] ∈ s.forwarder.sent) ∧
    (∃ d ∈ start.replies longActions, d.payload = [97, 98, 99, 100, 101, 102]) ∧
    ∃ d ∈ r.engine.delivered, d.payload = [97, 98, 99] := by
  obtain ⟨start, t, r, started, ran, sent, replies, delivered⟩ := exists_long_run
  refine ⟨start, t, r, rfl, started, ran, ⟨_, List.mem_cons_self, rfl⟩, ?_, ?_, ?_⟩
  · have listed : [[1, 2, 3]] ∈ r.engine.everySession.map (·.forwarder.sent) := by
      rw [sent]; exact List.mem_cons_self
    obtain ⟨s, hs, same⟩ := List.mem_map.mp listed
    exact ⟨s, hs, by rw [same]; exact List.mem_cons_self⟩
  · rw [replies]; exact ⟨_, List.mem_cons_self, rfl⟩
  · rw [delivered]; exact ⟨_, List.mem_cons_self, rfl⟩

end Relay

end SocketRelay.Udp
