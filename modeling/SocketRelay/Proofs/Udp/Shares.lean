import SocketRelay.Proofs.Udp.Numbers

/-!
# What an engine keeps for one client

`Engine.share` picks from an engine what is about one client: its sessions, in
the table and removed, its dropped datagrams and its events. Each thing that an
engine does has one lemma for what it does to the share of the client that it is
about, and one that says that it leaves the shares of others alone.
-/

namespace SocketRelay

def Event.isOf (key : String) : Event → Bool
  | .sessionCreated client _ _ | .datagramDropped client | .sessionIoFailed client _ _
  | .sessionEvicted client _ => client.text = key
  | _ => false

def Event.renumber (g : UInt64 → UInt64) : Event → Event
  | .sessionCreated client id remote => .sessionCreated client (g id) remote
  | event => event

namespace Udp

open Net

def Session.renumber (g : UInt64 → UInt64) (s : Session) : Session := { s with id := g s.id }

/-- What an effect of a task of a client's session logs about the client. -/
def Effect.events (client : Endpoint) : Effect → List Event
  | .failed _ (some (op, cause)) => [.sessionIoFailed client op cause.message]
  | _ => []

/-- What an engine keeps for one client. -/
@[ext]
structure Share where
  table : List Session
  removed : List Session
  dropped : List Datagram
  events : List Event
  deriving DecidableEq, Repr

def Share.renumber (g : UInt64 → UInt64) (share : Share) : Share where
  table := share.table.map (·.renumber g)
  removed := share.removed.map (·.renumber g)
  dropped := share.dropped
  events := share.events.map (·.renumber g)

namespace Engine

variable {e a : Engine} {now : Instant} {key k : String} {s s' : Session} {d : Datagram}

def share (e : Engine) (key : String) : Share where
  table := (e.table.filter (·.1 = key)).map (·.2)
  removed := e.removed.filter (·.client.text = key)
  dropped := e.dropped.filter (·.source.text = key)
  events := e.log.filter (·.isOf key)

def refusedOf (e : Engine) (key : String) : List Datagram :=
  e.refused.filter (·.source.text = key)

theorem session?_eq_head? (e : Engine) (key : String) :
    e.session? key = (e.share key).table.head? := by
  simp only [session?, share]
  induction e.table with
  | nil => rfl
  | cons p table ih =>
    obtain ⟨k, s⟩ := p
    by_cases here : k = key
    · subst here
      rw [List.lookup_cons_self, List.filter_cons_of_pos (by simp)]
      rfl
    · have away : (key == k) = false := beq_eq_false_iff_ne.mpr (Ne.symm here)
      rw [List.lookup_cons, away, List.filter_cons_of_neg (by simpa using here)]
      exact ih

theorem numbers_eq (table : Registered e) (key : String) :
    e.numbers key = ((e.share key).removed ++ (e.share key).table).map (·.id) := by
  have own (l : List Session) : l.filterMap (·.numberFor key) =
      (l.filter (·.client.text = key)).map (·.id) := by
    induction l with
    | nil => rfl
    | cons s l ih =>
      rw [List.filterMap_cons, List.filter_cons, Session.numberFor]
      by_cases here : s.client.text = key <;> simp [here, ih]
  have sessions : (e.table.map (·.2)).filter (·.client.text = key) = (e.share key).table := by
    rw [share, List.filter_map]
    refine congrArg _ (List.filter_congr fun p hp => ?_)
    simp only [Function.comp_apply, table.named p hp]
  rw [numbers, everySession, own, List.filter_append, sessions]
  rfl

/-! ## Changes of the share -/

theorem share_update (e : Engine) (key : String) (f : Session → Session) :
    (e.update key f).share key = { e.share key with table := (e.share key).table.map f } := by
  simp only [share, update]
  congr 1
  induction e.table with
  | nil => rfl
  | cons p table ih =>
    obtain ⟨k, s⟩ := p
    rw [List.map_cons, List.filter_cons, List.filter_cons]
    by_cases here : k = key
    · simp only [here, if_true, decide_true, List.map_cons, ih]
    · simp only [here, if_false, decide_false, Bool.false_eq_true, ih]

theorem share_update_of_ne (other : k ≠ key) (e : Engine) (f : Session → Session) :
    (e.update k f).share key = e.share key := by
  simp only [share, update]
  congr 1
  induction e.table with
  | nil => rfl
  | cons p table ih =>
    obtain ⟨k', s⟩ := p
    rw [List.map_cons, List.filter_cons, List.filter_cons]
    by_cases here : k' = k
    · simp only [here, other, if_true, decide_false, Bool.false_eq_true, if_false, ih]
    · simp only [here, if_false]
      split <;> simp only [List.map_cons, ih]

theorem share_create (e : Engine) (now : Instant) (client remote : Endpoint) :
    (e.create now client remote).share client.text =
      { e.share client.text with
        table := (e.share client.text).table ++
          [.start (e.lastId + 1) client remote e.settings.outboundQueue.toNat now]
        events := (e.share client.text).events ++
          [.sessionCreated client (e.lastId + 1) remote] } := by
  simp [share, create, record, Event.isOf]

theorem share_create_of_ne {client : Endpoint} (other : client.text ≠ key) (e : Engine)
    (now : Instant) (remote : Endpoint) :
    (e.create now client remote).share key = e.share key := by
  simp [share, create, record, Event.isOf, other]

theorem share_record (e : Engine) (key : String) (event : Event) :
    (e.record event).share key = { e.share key with
      events := (e.share key).events ++ if event.isOf key then [event] else [] } := by
  simp only [share, record, List.filter_append, List.filter_cons, List.filter_nil]

theorem share_enqueue (own : d.source.text = key) :
    (e.enqueue now s key d).share key =
      { e.share key with
        table := (e.share key).table.map fun x =>
          { x with
            forwarder := (s.forwarder.offer d.payload).getD x.forwarder
            clock := x.clock.touch now }
        dropped := (e.share key).dropped ++
          if (s.forwarder.offer d.payload).isSome then [] else [d]
        events := (e.share key).events ++
          if (s.forwarder.offer d.payload).isSome then [] else [.datagramDropped d.source] } := by
  refine Share.ext ?_ (enqueue_frame (fun e => (e.share key).removed) (by intros; rfl) _) ?_ ?_
  · simp only [share, table_enqueue]
    exact congrArg Share.table (share_update e key _)
  · simp only [share, dropped_enqueue, List.filter_append]
    split <;> simp [own]
  · simp only [share, log_enqueue, List.filter_append]
    split <;> simp [Event.isOf, own]

theorem share_enqueue_of_ne (other : d.source.text ≠ key) :
    (e.enqueue now s d.source.text d).share key = e.share key := by
  refine Share.ext ?_ (enqueue_frame (fun e => (e.share key).removed) (by intros; rfl) _) ?_ ?_
  · simp only [share, table_enqueue]
    exact congrArg Share.table (share_update_of_ne other e _)
  · simp only [share, dropped_enqueue, List.filter_append]
    split <;> simp [other]
  · simp only [share, log_enqueue, List.filter_append]
    split <;> simp [Event.isOf, other]

theorem isOf_openFailure (e : Engine) (client : Endpoint) (error : Error) :
    (e.openFailure client error).isOf key = false := by
  unfold openFailure
  split <;> rfl

theorem share_refuse (e : Engine) (now : Instant) (d : Datagram) (error : Error) :
    (e.refuse now d error).share key = e.share key := by
  rw [refuse, share_record, isOf_openFailure]
  simp only [share, Bool.false_eq_true, if_false, List.append_nil]

theorem refusedOf_refuse (e : Engine) (now : Instant) (d : Datagram) (error : Error) :
    (e.refuse now d error).refusedOf key =
      e.refusedOf key ++ if d.source.text = key then [d] else [] := by
  simp only [refusedOf, refuse, record, List.filter_append, List.filter_cons, List.filter_nil,
    decide_eq_true_eq]

theorem share_evict (live : e.session? key = some s) (own : s.client.text = key)
    (reason : EvictionReason) :
    (e.evict key reason).share key =
      { e.share key with
        table := []
        removed := (e.share key).removed ++ [s]
        events := (e.share key).events ++ [.sessionEvicted s.client reason] } := by
  rw [evict_eq live, share_record]
  simp [share, Event.isOf, own]

theorem share_evict_of_ne (other : k ≠ key) (table : Registered e) (reason : EvictionReason) :
    (e.evict k reason).share key = e.share key := by
  cases live : e.session? k with
  | none => simp only [evict, live]
  | some s =>
    have foreign : s.client.text ≠ key := table.text_of_session? live ▸ other
    rw [evict_eq live, share_record]
    refine Share.ext ?_ ?_ rfl ?_
    · simp only [share, List.filter_filter]
      refine congrArg _ (List.filter_congr fun p _ => ?_)
      by_cases here : p.1 = key <;> simp [here, Ne.symm other]
    · simp [share, foreign]
    · simp [share, Event.isOf, foreign]

theorem share_apply (e : Engine) (now : Instant) (s : Session) (effect : Effect) :
    (e.apply now s effect).share key =
      { e.share key with
        events := (e.share key).events ++
          if s.client.text = key then effect.events s.client else [] } := by
  cases effect with
  | none | forwarded | replied => simp [apply, share, Effect.events]
  | failed reason cause =>
    rw [apply, fail_eq]
    refine Share.ext rfl rfl rfl ?_
    simp only [share, List.filter_append]
    have lost : (if (e.reports.offer (s.reporter.report reason)).2 = .full then
        [Event.eventQueueFull s.client reason] else []).filter (·.isOf key) = [] := by
      split <;> rfl
    rw [lost, List.append_nil]
    cases cause with
    | none => simp [Effect.events]
    | some cause =>
      by_cases own : s.client.text = key <;> simp [Effect.events, Event.isOf, own]

/-! ## Places among the removed sessions -/

section
variable {α : Type} {l : List α} {i : Nat} {x y : α} {p : α → Bool}

theorem filter_split (h : l[i]? = some x) (own : p x = true) :
    l.filter p = (l.take i).filter p ++ x :: (l.drop (i + 1)).filter p := by
  obtain ⟨lt, rfl⟩ := List.getElem?_eq_some_iff.mp h
  rw [← List.filter_cons_of_pos own, List.getElem_cons_drop, ← List.filter_append,
    List.take_append_drop]

/-- An element that is kept stands behind those before it that are kept. -/
theorem getElem?_filter (h : l[i]? = some x) (own : p x = true) :
    (l.filter p)[(l.take i).countP p]? = some x := by
  rw [filter_split h own, List.countP_eq_length_filter, List.getElem?_append_right (Nat.le_refl _),
    Nat.sub_self, List.getElem?_cons_zero]

theorem filter_set (h : l[i]? = some x) (own : p x = true) (same : p y = p x) :
    (l.set i y).filter p = (l.filter p).set ((l.take i).countP p) y := by
  have lt := (List.getElem?_eq_some_iff.mp h).1
  rw [filter_split h own, List.countP_eq_length_filter, List.set_append_right _ _ (Nat.le_refl _),
    Nat.sub_self, List.set_cons_zero, List.set_eq_take_append_cons_drop, if_pos lt,
    List.filter_append, List.filter_cons_of_pos (same.trans own)]

theorem filter_set_of_neg (h : l[i]? = some x) (other : p x = false) (same : p y = p x) :
    (l.set i y).filter p = l.filter p := by
  obtain ⟨lt, rfl⟩ := List.getElem?_eq_some_iff.mp h
  have foreign : ¬ p l[i] = true := by rw [other]; exact Bool.false_ne_true
  have whole : l.filter p = (l.take i).filter p ++ (l.drop (i + 1)).filter p := by
    rw [← List.filter_cons_of_neg (l := l.drop (i + 1)) foreign, List.getElem_cons_drop,
      ← List.filter_append, List.take_append_drop]
  rw [whole, List.set_eq_take_append_cons_drop, if_pos lt, List.filter_append,
    List.filter_cons_of_neg (same ▸ foreign)]

end

/-- How many of the client's sessions were removed before the one at this index. -/
def place (e : Engine) (key : String) (index : Nat) : Nat :=
  (e.removed.take index).countP (·.client.text = key)

theorem share_set {index : Nat} (gone : e.removed[index]? = some s) (own : s.client.text = key)
    (client : s'.client = s.client) :
    { e with removed := e.removed.set index s' }.share key =
      { e.share key with removed := (e.share key).removed.set (e.place key index) s' } := by
  refine Share.ext rfl ?_ rfl rfl
  exact filter_set gone (decide_eq_true own) (by rw [client])

theorem share_set_of_ne {index : Nat} (gone : e.removed[index]? = some s)
    (other : s.client.text ≠ key) (client : s'.client = s.client) :
    { e with removed := e.removed.set index s' }.share key = e.share key := by
  refine Share.ext rfl ?_ rfl rfl
  exact filter_set_of_neg gone (decide_eq_false other) (by rw [client])

theorem share_removed_getElem? {index : Nat} (gone : e.removed[index]? = some s)
    (own : s.client.text = key) : (e.share key).removed[e.place key index]? = some s :=
  getElem?_filter gone (decide_eq_true own)

end Engine

end Udp

end SocketRelay
