import SocketRelay.Proofs.Udp.Forwarders
import SocketRelay.Proofs.Udp.Serving
import SocketRelay.Proofs.Udp.SideBySide

/-!
# Bursts of datagrams

While no task of a session runs, nothing leaves the queues of the sessions. A
queue then takes payloads until it is full and drops the rest, whatever other
clients send in between (`Engine.burst_live`, `Engine.burst_absent`). No queue
ever holds more than the settings allow (`Engine.Bounded`).
-/

namespace SocketRelay

def Event.droppedClient? : Event → Option Net.Endpoint
  | .datagramDropped client => some client
  | _ => none

namespace Udp

open Net

namespace Forwarder

variable {f f' : Forwarder}

def room (f : Forwarder) : Nat := if f.isAlive then f.capacity - f.queue.length else 0

/-- The forwarder after these payloads were offered to it: those that find room are accepted. -/
def takes (f : Forwarder) (ps : List Payload) : Forwarder :=
  { f with queue := f.queue ++ ps.take f.room, accepted := f.accepted ++ ps.take f.room }

@[simp] theorem takes_nil (f : Forwarder) : f.takes [] = f := by simp [takes]

theorem room_of_ended (ended : f.isAlive = false) : f.room = 0 := by simp [room, ended]

theorem takes_of_ended (ended : f.isAlive = false) (ps : List Payload) : f.takes ps = f := by
  simp [takes, room_of_ended ended]

theorem offer_of_room (room : 0 < f.room) (p : Payload) : f.offer p = some (f.takes [p]) := by
  have alive : f.isAlive = true := by
    by_contra ended
    rw [room_of_ended (Bool.not_eq_true _ ▸ ended)] at room
    cases room
  have free : f.queue.length < f.capacity := by
    rw [Forwarder.room, if_pos alive] at room
    omega
  have one : [p].take f.room = [p] := List.take_of_length_le room
  simp only [offer, takes, one, alive, free, decide_true, Bool.and_self, if_true]

theorem offer_of_full (full : f.room = 0) (p : Payload) : f.offer p = none := by
  unfold offer
  split
  · next free =>
    obtain ⟨alive, free⟩ := Bool.and_eq_true_iff.mp free
    have free := of_decide_eq_true free
    rw [room, if_pos alive] at full
    omega
  · rfl

theorem getD_offer (f : Forwarder) (p : Payload) : (f.offer p).getD f = f.takes [p] := by
  rcases Nat.eq_zero_or_pos f.room with full | room
  · rw [offer_of_full full, takes, full]
    simp
  · rw [offer_of_room room, Option.getD_some]

theorem room_takes (f : Forwarder) (ps : List Payload) :
    (f.takes ps).room = f.room - ps.length := by
  cases alive : f.isAlive with
  | false => rw [takes_of_ended alive, room_of_ended alive, Nat.zero_sub]
  | true =>
    have still : (f.takes ps).isAlive = true := alive
    rw [room, if_pos still, room, if_pos alive, takes, room, if_pos alive]
    simp only [List.length_append, List.length_take]
    omega

theorem takes_append (f : Forwarder) (ps qs : List Payload) :
    (f.takes ps).takes qs = f.takes (ps ++ qs) := by
  rw [takes, room_takes]
  simp only [takes, List.take_append, List.append_assoc]

theorem takes_of_room {n : Nat} (room : f.room = n) (burst : List Datagram) :
    f.takes (burst.map (·.payload)) = { f with
      queue := f.queue ++ (burst.take n).map (·.payload)
      accepted := f.accepted ++ (burst.take n).map (·.payload) } := by
  simp only [takes, room, List.map_take]

/-! ## Queues within their bounds -/

/-- The forwarder has a queue as the settings say, and no more in it than that. -/
structure Fits (settings : Settings) (f : Forwarder) : Prop where
  capacity : f.capacity = settings.outboundQueue.toNat
  length_le : f.queue.length ≤ settings.outboundQueue.toNat
  size : Channel.canHave settings.outboundQueue.toNat = true

namespace Fits

variable {settings : Settings}

theorem start (size : Channel.canHave settings.outboundQueue.toNat = true) :
    Fits settings { capacity := settings.outboundQueue.toNat } := ⟨rfl, Nat.zero_le _, size⟩

theorem takes (h : f.Fits settings) (ps : List Payload) : (f.takes ps).Fits settings := by
  refine ⟨h.capacity, ?_, h.size⟩
  have room : f.room ≤ settings.outboundQueue.toNat - f.queue.length := by
    rw [Forwarder.room, h.capacity]
    split
    · exact Nat.le_refl _
    · exact Nat.zero_le _
  have before := h.length_le
  simp only [Forwarder.takes, List.length_append, List.length_take]
  omega

theorem step (h : f.Fits settings) {isOpen : Bool} {input : ForwarderInput} {effect : Effect}
    (step : f.step isOpen input = some (f', effect)) : f'.Fits settings := by
  obtain ⟨p, rest, -, queue, rfl, -⟩ | ⟨p, -, rfl, -⟩ | ⟨p, cause, -, rfl, -⟩ | ⟨-, -, -, rfl, -⟩ :=
    step_cases step
  · refine ⟨h.capacity, ?_, h.size⟩
    have before := h.length_le
    rw [queue] at before
    exact Nat.le_of_succ_le before
  · exact ⟨h.capacity, h.length_le, h.size⟩
  · exact ⟨h.capacity, h.length_le, h.size⟩
  · exact ⟨h.capacity, h.length_le, h.size⟩

/-- A forwarder that is offered a payload and does not take it has ended, or its queue is full. -/
theorem full (h : f.Fits settings) (full : f.room = 0) :
    f.isAlive = false ∨ f.queue.length = settings.outboundQueue.toNat := by
  cases alive : f.isAlive with
  | false => exact .inl rfl
  | true =>
    rw [room, if_pos alive, h.capacity] at full
    exact .inr (Nat.le_antisymm h.length_le (by omega))

end Fits

end Forwarder

namespace Engine

variable {e e' e'' : Engine} {now : Instant} {key : String} {s s' : Session} {o : Opening}
  {d : Datagram}

def Bounded (e : Engine) : Prop := ∀ s ∈ e.everySession, s.forwarder.Fits e.settings

namespace Bounded

theorem of_same (h : Bounded e) (sessions : ∀ s ∈ e'.everySession, s ∈ e.everySession)
    (settings : e'.settings = e.settings) : Bounded e' := fun s hs => by
  rw [settings]
  exact h s (sessions s hs)

theorem of_replaced (h : Bounded e) (every : Replaced s s' e.everySession e'.everySession)
    (settings : e'.settings = e.settings)
    (fits : s.forwarder.Fits e.settings → s'.forwarder.Fits e.settings) : Bounded e' := by
  intro x hx
  rw [settings]
  obtain rfl | hx := every.mem hx
  · exact fits (h s every.mem_before)
  · exact h x hx

theorem move (m : Move now e e') (table : Registered e) (h : Bounded e) : Bounded e' := by
  have stepped {isOpen : Bool} {input : TaskInput} {effect : Effect} {s s' : Session}
      (step : e.stepSession now s isOpen input = some (s', effect))
      (fits : s.forwarder.Fits e.settings) : s'.forwarder.Fits e.settings := by
    obtain ⟨i, f, moved, rfl⟩ | ⟨i, r, -, -, rfl⟩ := stepSession_cases step
    · exact fits.step moved
    · exact fits
  cases m with
  | received | readFailed | stalled | resolved | refused | reportTaken =>
    exact h.of_same (fun _ hs => hs) rfl
  | stopped => exact h.of_same (fun _ hs => by rwa [everySession_stop] at hs) rfl
  | created absent known size =>
    intro s hs
    rw [everySession_create] at hs
    rcases List.mem_append.mp hs with hs | hs
    · exact h s hs
    · rw [List.mem_singleton.mp hs]
      exact .start size
  | enqueued live =>
    refine h.of_replaced (everySession_enqueue now _ table.unique live)
      (enqueue_frame (·.settings) (by intros; rfl) _) fun fits => ?_
    rw [Session.taken, Forwarder.getD_offer]
    exact fits.takes _
  | swept live _ =>
    exact h.of_same (fun _ hs => (everySession_evict table.unique live _).mem_iff.mp hs)
      (settings_evict ..)
  | reported live _ =>
    exact h.of_same (fun _ hs => (everySession_evict table.unique live _).mem_iff.mp hs)
      (settings_evict ..)
  | @stepped k s s' input effect live step =>
    have every : Replaced s s' e.everySession
        ((e.update k fun _ => s').apply now s effect).everySession := by
      rw [everySession_apply]
      exact everySession_update table.unique live fun _ => s'
    exact h.of_replaced every (apply_frame (·.settings) (by intros; rfl)) (stepped step)
  | @drained index s s' input effect gone step =>
    have every : Replaced s s' e.everySession
        ({ e with removed := e.removed.set index s' }.apply now s effect).everySession := by
      rw [everySession_apply]
      exact everySession_set gone s'
    exact h.of_replaced every (apply_frame (·.settings) (by intros; rfl)) (stepped step)

end Bounded

/-! ## What is lost -/

/-- What the manager drops on the way from `e` to `e'`: each datagram is counted and logged once. -/
structure Drops (lost : List Datagram) (e e' : Engine) : Prop where
  dropped : e'.dropped = e.dropped ++ lost
  counted : e'.stats.dropped = e.stats.dropped + .ofNat lost.length
  logged : e'.log.filterMap (·.droppedClient?) =
    e.log.filterMap (·.droppedClient?) ++ lost.map (·.source)

namespace Drops

variable {lost more : List Datagram}

theorem none (dropped : e'.dropped = e.dropped) (counted : e'.stats.dropped = e.stats.dropped)
    (logged : e'.log.filterMap (·.droppedClient?) = e.log.filterMap (·.droppedClient?)) :
    Drops [] e e' :=
  ⟨by rw [dropped, List.append_nil], counted.trans (UInt64.add_zero _).symm,
    by rw [logged, List.map_nil, List.append_nil]⟩

/-- What the manager found out about the target is nothing to what it drops. -/
theorem of_found {remote : Endpoint} (h : Drops lost { e with resolved := some remote } e') :
    Drops lost e e' := ⟨h.dropped, h.counted, h.logged⟩

theorem trans (h : Drops lost e e') (h' : Drops more e' e'') : Drops (lost ++ more) e e'' where
  dropped := by rw [h'.dropped, h.dropped, List.append_assoc]
  counted := by
    rw [h'.counted, h.counted, List.length_append, UInt64.ofNat_add, UInt64.add_assoc]
  logged := by rw [h'.logged, h.logged, List.map_append, List.append_assoc]

theorem enqueue (e : Engine) (now : Instant) (s : Session) (key : String) (d : Datagram) :
    Drops (if 0 < s.forwarder.room then [] else [d]) e (e.enqueue now s key d) := by
  split
  · next room =>
    rw [enqueue_of_offer_some (Forwarder.offer_of_room room d.payload)]
    exact .none rfl rfl rfl
  · next full =>
    rw [enqueue_of_offer_none (Forwarder.offer_of_full (Nat.eq_zero_of_not_pos full) d.payload)]
    exact ⟨rfl, rfl, List.filterMap_append⟩

theorem refuse (e : Engine) (now : Instant) (d : Datagram) (error : Error) :
    Drops [] e (e.refuse now d error) := by
  refine .none rfl rfl ?_
  have silent : (e.openFailure d.source error).droppedClient? = Option.none := by
    unfold openFailure
    split <;> rfl
  rw [Engine.refuse, record, List.filterMap_append, List.filterMap_cons_none silent]
  exact List.append_nil _

theorem create (e : Engine) (now : Instant) (client remote : Endpoint) :
    Drops [] e (e.create now client remote) := by
  refine .none rfl rfl ?_
  rw [Engine.create, record, List.filterMap_append]
  exact List.append_nil _

end Drops

/-- A datagram is dropped only when its own session takes no more. A session that was just opened
has room. -/
theorem handleDatagram_drops (e : Engine) (now : Instant) (o : Opening) (d : Datagram) :
    Drops [] e (e.handleDatagram now o d) ∨
      Drops [d] e (e.handleDatagram now o d) ∧
        ∃ s, e.session? d.source.text = some s ∧ s.forwarder.room = 0 := by
  obtain ⟨s, live, eq⟩ | ⟨absent, ⟨error, eq⟩ | ⟨remote, -, ⟨error, eq⟩ | ⟨-, eq⟩ |
    ⟨size, s, live, eq⟩⟩⟩ := e.handleDatagram_cases now o d
  · have lost := Drops.enqueue e now s d.source.text d
    rw [eq]
    split at lost
    · exact .inl lost
    · next full => exact .inr ⟨lost, s, live, Nat.eq_zero_of_not_pos full⟩
  · rw [eq]; exact .inl (.refuse e now d error)
  · rw [eq]; exact .inl (Drops.refuse _ now d error).of_found
  · rw [eq]; exact .inl (.none rfl rfl rfl)
  · have created := session?_create (e := { e with resolved := some remote }) now remote absent
    cases live.symm.trans created
    let s := Session.start (e.lastId + 1) d.source remote e.settings.outboundQueue.toNat now
    have room : 0 < s.forwarder.room := of_decide_eq_true (Bool.and_eq_true_iff.mp size).1
    have opened := Drops.create { e with resolved := some remote } now d.source remote
    have taken := Drops.enqueue ({ e with resolved := some remote }.create now d.source remote) now
      s d.source.text d
    rw [if_pos room] at taken
    rw [eq]
    exact .inl (opened.trans taken).of_found

theorem handle_drops (h : Bounded e) (i : Input) :
    (e.handle i).dropped = e.dropped ∨
    ∃ now o d s, i = .datagram now o d ∧ (e.handle i).dropped = e.dropped ++ [d] ∧
      e.session? d.source.text = some s ∧
      (s.forwarder.isAlive = false ∨
        s.forwarder.queue.length = e.settings.outboundQueue.toNat) := by
  cases i with
  | datagram now o d =>
    simp only [handle]
    split
    · obtain kept | ⟨lost, s, live, full⟩ := e.handleDatagram_drops now o d
      · exact .inl (kept.dropped.trans (List.append_nil _))
      · have fits := h s (mem_everySession_of_session? live)
        exact .inr ⟨now, o, d, s, rfl, lost.dropped, live, fits.full full⟩
    · exact .inl rfl
  | sweep | report | query | task =>
    exact .inl (handle_frame (·.dropped) (by intros; rfl) fun _ _ _ eq => by cases eq)

/-! ## One client -/

def ofClient (key : String) (burst : List Datagram) : List Datagram :=
  burst.filter (·.source.text = key)

theorem ofClient_cons (own : d.source.text = key) (burst : List Datagram) :
    ofClient key (d :: burst) = d :: ofClient key burst :=
  List.filter_cons_of_pos (decide_eq_true own)

theorem ofClient_cons_of_ne (other : d.source.text ≠ key) (burst : List Datagram) :
    ofClient key (d :: burst) = ofClient key burst :=
  List.filter_cons_of_neg (by simpa using other)

theorem ofClient_append (key : String) (burst more : List Datagram) :
    ofClient key (burst ++ more) = ofClient key burst ++ ofClient key more := List.filter_append ..

/-- What the manager has of one client. -/
structure Inbox where
  session : Option Session
  dropped : List Datagram
  refused : List Datagram

namespace Inbox

/-- After these datagrams of the client were offered to its session `s`. -/
def offered (v : Inbox) (s : Session) (clock : ActivityClock) (burst : List Datagram) : Inbox :=
  { v with
    session := some { s with clock, forwarder := s.forwarder.takes (burst.map (·.payload)) }
    dropped := v.dropped ++ burst.drop s.forwarder.room }

theorem offered_nil (v : Inbox) {s : Session} (live : v.session = some s) :
    v.offered s s.clock [] = v := by
  simp [offered, ← live]

theorem offered_offered (v : Inbox) (s : Session) (clock clock' : ActivityClock)
    (burst more : List Datagram) :
    (v.offered s clock burst).offered
        { s with clock, forwarder := s.forwarder.takes (burst.map (·.payload)) } clock' more =
      v.offered s clock' (burst ++ more) := by
  simp only [offered, Forwarder.takes_append, Forwarder.room_takes, List.map_append,
    List.length_map, List.drop_append, List.append_assoc]

/-- After no session could be opened for these datagrams. -/
def turnedAway (v : Inbox) (burst : List Datagram) : Inbox :=
  { v with refused := v.refused ++ burst }

end Inbox

def inbox (e : Engine) (key : String) : Inbox :=
  ⟨e.session? key, ofClient key e.dropped, e.refusedOf key⟩

theorem inbox_enqueue (live : e.session? d.source.text = some s) :
    (e.enqueue now s d.source.text d).inbox d.source.text =
      (e.inbox d.source.text).offered s (s.clock.touch now) [d] := by
  have refused : (e.enqueue now s d.source.text d).refusedOf d.source.text =
      e.refusedOf d.source.text := enqueue_frame (·.refusedOf d.source.text) (by intros; rfl) _
  have lost : ofClient d.source.text (if 0 < s.forwarder.room then [] else [d]) =
      [d].drop s.forwarder.room := by
    split
    · next room => exact (List.drop_of_length_le room).symm
    · next full =>
      rw [Nat.eq_zero_of_not_pos full]
      exact ofClient_cons rfl []
  simp only [inbox, Inbox.offered, refused, session?_enqueue live, if_true, Session.taken,
    Forwarder.getD_offer, (Drops.enqueue e now s d.source.text d).dropped, ofClient_append, lost,
    List.map_cons, List.map_nil]

theorem inbox_enqueue_of_ne (live : e.session? d.source.text = some s)
    (other : d.source.text ≠ key) :
    (e.enqueue now s d.source.text d).inbox key = e.inbox key := by
  have refused : (e.enqueue now s d.source.text d).refusedOf key = e.refusedOf key :=
    enqueue_frame (·.refusedOf key) (by intros; rfl) _
  have lost : ofClient key (if 0 < s.forwarder.room then [] else [d]) = [] := by
    split
    · rfl
    · exact ofClient_cons_of_ne other []
  simp only [inbox, refused, session?_enqueue live, if_neg (Ne.symm other),
    (Drops.enqueue e now s d.source.text d).dropped, ofClient_append, lost, List.append_nil]

theorem inbox_create_of_ne {client : Endpoint} (other : client.text ≠ key) (remote : Endpoint) :
    (e.create now client remote).inbox key = e.inbox key := by
  rw [inbox, session?_create_of_ne now remote (Ne.symm other)]
  rfl

theorem inbox_refuse (error : Error) : (e.refuse now d error).inbox key =
    (e.inbox key).turnedAway (if d.source.text = key then [d] else []) := by
  rw [inbox, refusedOf_refuse]
  rfl

/-- What others send is nothing to a client, as long as the manager can open sessions. -/
theorem inbox_handleDatagram_of_ne (size : Channel.canHave e.settings.outboundQueue.toNat = true)
    (other : d.source.text ≠ key) (now : Instant) (o : Opening) :
    (e.handleDatagram now o d).inbox key = e.inbox key := by
  have nothing (v : Inbox) : v.turnedAway [] = v := by simp [Inbox.turnedAway]
  obtain ⟨s, live, eq⟩ | ⟨absent, ⟨error, eq⟩ | ⟨remote, -, ⟨error, eq⟩ | ⟨small, -⟩ |
    ⟨-, s, live, eq⟩⟩⟩ := e.handleDatagram_cases now o d
  · rw [eq, inbox_enqueue_of_ne live other]
  · rw [eq, inbox_refuse, if_neg other, nothing]
  · rw [eq, inbox_refuse, if_neg other, nothing]; rfl
  · rw [size] at small; cases small
  · rw [eq, inbox_enqueue_of_ne live other, inbox_create_of_ne other]; rfl

theorem inbox_handleDatagram_of_live (live : e.session? d.source.text = some s) (now : Instant)
    (o : Opening) :
    (e.handleDatagram now o d).inbox d.source.text =
      (e.inbox d.source.text).offered s (s.clock.touch now) [d] := by
  simp only [handleDatagram, deliver, live]
  exact inbox_enqueue live

/-- The first datagram of a client is refused, or opens a session that takes it. -/
theorem inbox_handleDatagram_of_absent
    (size : Channel.canHave e.settings.outboundQueue.toNat = true)
    (absent : e.session? d.source.text = none) (now : Instant) (o : Opening) :
    (e.handleDatagram now o d).inbox d.source.text = (e.inbox d.source.text).turnedAway [d] ∨
    ∃ s clock, s.forwarder = { capacity := e.settings.outboundQueue.toNat } ∧
      (e.handleDatagram now o d).inbox d.source.text =
        (e.inbox d.source.text).offered s clock [d] := by
  obtain ⟨s, live, -⟩ | ⟨-, ⟨error, eq⟩ | ⟨remote, -, ⟨error, eq⟩ | ⟨small, -⟩ |
    ⟨-, s, live, eq⟩⟩⟩ := e.handleDatagram_cases now o d
  · rw [absent] at live; cases live
  · rw [eq, inbox_refuse, if_pos rfl]; exact .inl rfl
  · rw [eq, inbox_refuse, if_pos rfl]; exact .inl rfl
  · rw [size] at small; cases small
  · have created := session?_create (e := { e with resolved := some remote }) now remote absent
    cases live.symm.trans created
    let s := Session.start (e.lastId + 1) d.source remote e.settings.outboundQueue.toNat now
    refine .inr ⟨s, s.clock.touch now, rfl, ?_⟩
    rw [eq, inbox_enqueue live]
    rfl

/-! ## Bursts -/

/-- A datagram that reaches the manager at a time, and what the outside answers if a session has
to be opened for it. -/
structure Arrival where
  time : Instant
  opening : Opening
  datagram : Datagram

def Arrival.input (a : Arrival) : Input := .datagram a.time a.opening a.datagram

def burst (e : Engine) (arrivals : List Arrival) : Engine := e.run (arrivals.map Arrival.input)

theorem burst_cons (running : e.running = true) (a : Arrival) (arrivals : List Arrival) :
    e.burst (a :: arrivals) = (e.handleDatagram a.time a.opening a.datagram).burst arrivals := by
  have handled : e.handle a.input = e.handleDatagram a.time a.opening a.datagram := if_pos running
  rw [burst, List.map_cons, run, List.foldl_cons, handled]
  rfl

theorem burst_drops (e : Engine) (arrivals : List Arrival) :
    ∃ lost, Drops lost e (e.burst arrivals) := by
  unfold burst
  induction arrivals generalizing e with
  | nil => exact ⟨[], .none rfl rfl rfl⟩
  | cons a arrivals ih =>
    have first : ∃ lost, Drops lost e (e.handle a.input) := by
      simp only [Arrival.input, handle]
      split
      · obtain kept | ⟨lost, -⟩ := e.handleDatagram_drops a.time a.opening a.datagram
        · exact ⟨[], kept⟩
        · exact ⟨[a.datagram], lost⟩
      · exact ⟨[], .none rfl rfl rfl⟩
    obtain ⟨lost, first⟩ := first
    obtain ⟨more, rest⟩ := ih (e.handle a.input)
    exact ⟨lost ++ more, first.trans rest⟩

/-- A manager that is there and can have queues for sessions of this capacity. -/
structure Serves (capacity : Nat) (e : Engine) : Prop where
  running : e.running = true
  capacity : e.settings.outboundQueue.toNat = capacity
  size : Channel.canHave e.settings.outboundQueue.toNat = true

theorem Serves.handleDatagram {capacity : Nat} (h : Serves capacity e) (now : Instant) (o : Opening)
    (d : Datagram) : Serves capacity (e.handleDatagram now o d) :=
  (e.handleDatagram_moves now o d).keeps
    (fun m h => ⟨(running_move m h.size).trans h.running, settings_move m ▸ h.capacity,
      settings_move m ▸ h.size⟩) h

/-- A session takes what it has room for, and the rest is dropped. -/
theorem burst_live {capacity : Nat} (serves : Serves capacity e) (live : e.session? key = some s)
    (arrivals : List Arrival) : ∃ clock, (e.burst arrivals).inbox key =
      (e.inbox key).offered s clock (ofClient key (arrivals.map (·.datagram))) := by
  -- Over the datagrams of all clients: one of another client leaves the inbox as it is, and one of
  -- this client uses up room for one payload, if there is any.
  induction arrivals generalizing e s with
  | nil => exact ⟨s.clock, ((e.inbox key).offered_nil live).symm⟩
  | cons a arrivals ih =>
    have still := serves.handleDatagram a.time a.opening a.datagram
    rw [burst_cons serves.running, List.map_cons]
    by_cases own : a.datagram.source.text = key
    · subst own
      have first := inbox_handleDatagram_of_live live a.time a.opening
      obtain ⟨clock, rest⟩ := ih still (congrArg Inbox.session first)
      refine ⟨clock, ?_⟩
      rw [rest, first, ofClient_cons rfl]
      exact Inbox.offered_offered ..
    · have same := inbox_handleDatagram_of_ne serves.size own a.time a.opening
      obtain ⟨clock, rest⟩ := ih still ((congrArg Inbox.session same).trans live)
      exact ⟨clock, by rw [rest, same, ofClient_cons_of_ne own]⟩

/-- The datagrams of a client without a session are refused until one of them opens a session,
which takes that one and the next ones as far as it has room. -/
theorem burst_absent {capacity : Nat} (serves : Serves capacity e) (absent : e.session? key = none)
    (arrivals : List Arrival) : ∃ turned rest,
      ofClient key (arrivals.map (·.datagram)) = turned ++ rest ∧
      (rest = [] ∧ (e.burst arrivals).inbox key = (e.inbox key).turnedAway turned ∨
        rest ≠ [] ∧ ∃ s clock, s.forwarder = { capacity } ∧
          (e.burst arrivals).inbox key =
            ((e.inbox key).turnedAway turned).offered s clock rest) := by
  induction arrivals generalizing e with
  | nil => exact ⟨[], [], rfl, .inl ⟨rfl, by simp [burst, run, Inbox.turnedAway]⟩⟩
  | cons a arrivals ih =>
    have still := serves.handleDatagram a.time a.opening a.datagram
    rw [burst_cons serves.running, List.map_cons]
    by_cases own : a.datagram.source.text = key
    · subst own
      rw [ofClient_cons rfl]
      obtain refused | ⟨s, clock, fresh, first⟩ :=
        inbox_handleDatagram_of_absent serves.size absent a.time a.opening
      · obtain ⟨turned, rest, split, h⟩ := ih still ((congrArg Inbox.session refused).trans absent)
        refine ⟨a.datagram :: turned, rest, by rw [split, List.cons_append], ?_⟩
        rw [refused] at h
        simpa [Inbox.turnedAway] using h
      · obtain ⟨clock', rest⟩ := burst_live still (congrArg Inbox.session first) arrivals
        refine ⟨[], _, rfl, .inr ⟨List.cons_ne_nil _ _, s, clock', ?_, ?_⟩⟩
        · rw [fresh, serves.capacity]
        · rw [rest, first, Inbox.offered_offered]
          simp [Inbox.turnedAway]
    · have same := inbox_handleDatagram_of_ne serves.size own a.time a.opening
      obtain ⟨turned, rest, split, h⟩ := ih still ((congrArg Inbox.session same).trans absent)
      refine ⟨turned, rest, by rw [ofClient_cons_of_ne own, split], ?_⟩
      rwa [same] at h

/-! ## What a queue promises -/

/-- What a burst does to the queues of an engine, while no task of a session runs. -/
structure KeepsFirst (e e' : Engine) (burst lost : List Datagram) : Prop extends
    Drops lost e e' where
  /-- A session with a live forwarder takes the first datagrams of its client, as many as there is
  room for, and every later one is lost. -/
  accepted : ∀ key s, e.session? key = some s → s.forwarder.isAlive = true →
    let free := e.settings.outboundQueue.toNat - s.forwarder.queue.length
    let first := ((ofClient key burst).take free).map (·.payload)
    ofClient key lost = (ofClient key burst).drop free ∧
      ∃ clock, e'.session? key = some { s with
        clock
        forwarder := { s.forwarder with
          queue := s.forwarder.queue ++ first
          accepted := s.forwarder.accepted ++ first } }
  ended : ∀ key s, e.session? key = some s → s.forwarder.isAlive = false →
    ofClient key lost = ofClient key burst ∧ ∃ clock, e'.session? key = some { s with clock }
  /-- A session that is opened on the way starts with an empty queue. Before it, the datagrams of
  its client are refused. -/
  opened : Channel.canHave e.settings.outboundQueue.toNat = true →
    ∀ key, e.session? key = none → ∃ turned rest, ofClient key burst = turned ++ rest ∧
      e'.refusedOf key = e.refusedOf key ++ turned ∧
      ofClient key lost = rest.drop e.settings.outboundQueue.toNat ∧
      (rest = [] → e'.session? key = none) ∧
      (rest ≠ [] → ∃ s, e'.session? key = some s ∧
        s.forwarder =
          { capacity := e.settings.outboundQueue.toNat
            queue := (rest.take e.settings.outboundQueue.toNat).map (·.payload)
            accepted := (rest.take e.settings.outboundQueue.toNat).map (·.payload) })

theorem Drops.ofClient_lost {lost mine : List Datagram} (h : Drops lost e e')
    (view : (e'.inbox key).dropped = ofClient key e.dropped ++ mine) :
    ofClient key lost = mine := by
  rw [inbox, h.dropped, ofClient_append] at view
  exact List.append_cancel_left view

theorem Bounded.burst (h : Bounded e) (running : e.running = true) (arrivals : List Arrival) :
    ∃ lost, KeepsFirst e (e.burst arrivals) (arrivals.map (·.datagram)) lost := by
  obtain ⟨lost, drops⟩ := e.burst_drops arrivals
  have serves (size : Channel.canHave e.settings.outboundQueue.toNat = true) :
      Serves e.settings.outboundQueue.toNat e := ⟨running, rfl, size⟩
  have live {key : String} {s : Session} (live : e.session? key = some s) :=
    burst_live (serves (h s (mem_everySession_of_session? live)).size) live arrivals
  refine ⟨lost, drops, fun key s here alive => ?_, fun key s here ended => ?_,
    fun size key absent => ?_⟩
  · obtain ⟨clock, view⟩ := live here
    have room : s.forwarder.room =
        e.settings.outboundQueue.toNat - s.forwarder.queue.length := by
      rw [Forwarder.room, if_pos alive, (h s (mem_everySession_of_session? here)).capacity]
    have mine := drops.ofClient_lost (congrArg Inbox.dropped view)
    have session := congrArg Inbox.session view
    rw [room] at mine
    rw [Inbox.offered, Forwarder.takes_of_room room] at session
    exact ⟨mine, clock, session⟩
  · obtain ⟨clock, view⟩ := live here
    have mine := drops.ofClient_lost (congrArg Inbox.dropped view)
    have session := congrArg Inbox.session view
    rw [Forwarder.room_of_ended ended, List.drop_zero] at mine
    rw [Inbox.offered, Forwarder.takes_of_ended ended] at session
    exact ⟨mine, clock, session⟩
  · obtain ⟨turned, rest, split, ⟨rfl, view⟩ | ⟨some, s, clock, fresh, view⟩⟩ :=
      burst_absent (serves size) absent arrivals
    · have mine := drops.ofClient_lost
        ((congrArg Inbox.dropped view).trans (List.append_nil _).symm)
      refine ⟨turned, [], split, congrArg Inbox.refused view, mine.trans List.drop_nil.symm, ?_, ?_⟩
      · exact fun _ => (congrArg Inbox.session view).trans absent
      · exact fun some => absurd rfl some
    · have room : s.forwarder.room = e.settings.outboundQueue.toNat := by rw [fresh]; rfl
      have mine := drops.ofClient_lost (congrArg Inbox.dropped view)
      rw [room] at mine
      refine ⟨turned, rest, split, congrArg Inbox.refused view, mine, fun none => absurd none some,
        fun _ => ⟨_, congrArg Inbox.session view, ?_⟩⟩
      dsimp only
      rw [Forwarder.takes_of_room room, fresh]
      rfl

/-- What the outbound queues of an engine promise. -/
structure QueuesKeepFirst (e : Engine) : Prop where
  length_le : ∀ s ∈ e.everySession, s.forwarder.queue.length ≤ e.settings.outboundQueue.toNat
  burst : e.running = true → ∀ arrivals,
    ∃ lost, KeepsFirst e (e.burst arrivals) (arrivals.map (·.datagram)) lost
  /-- Nothing else is dropped. -/
  dropped : ∀ i, (e.handle i).dropped = e.dropped ∨
    ∃ now o d s, i = .datagram now o d ∧ (e.handle i).dropped = e.dropped ++ [d] ∧
      e.session? d.source.text = some s ∧
      (s.forwarder.isAlive = false ∨
        s.forwarder.queue.length = e.settings.outboundQueue.toNat)

theorem run_bounded (target : String) (settings : Settings) (began : Instant)
    (inputs : List Input) : Bounded ((start target settings began).run inputs) :=
  (run_keeps (P := fun e => Registered e ∧ Bounded e)
    (fun m h => ⟨h.1.move m, h.2.move m h.1⟩)
    ⟨registered_start .., fun _ hs => absurd hs List.not_mem_nil⟩ inputs).2

end Engine

namespace Relay

open Engine

theorem Reachable.bounded {l : Listener} {cores : UInt64} {memory : Nat} {began t : Instant}
    {start r : Relay} (started : l.start? cores memory began = some start)
    (reached : Reachable start t r) :
    Bounded r.engine :=
  (reached.registered_keeps (P := fun _ => Bounded) started (fun _ h => h)
    (fun m table h => h.move m table) fun _ _ hs => absurd hs List.not_mem_nil).2

/-- Queues are bounded in every state, and where they are, they keep the first datagrams and drop
the rest. -/
theorem queuesKeepFirst :
    (∀ {l : Listener} {cores : UInt64} {memory : Nat} {began t : Instant} {start r : Relay},
      l.start? cores memory began = some start → Reachable start t r → Bounded r.engine) ∧
    (∀ target settings began inputs,
      Bounded ((Engine.start target settings began).run inputs)) ∧
    ∀ e, Bounded e → QueuesKeepFirst e :=
  ⟨fun started reached => reached.bounded started, run_bounded, fun _ h =>
    ⟨fun s hs => (h s hs).length_le, fun running => h.burst running, handle_drops h⟩⟩

def pairListener : Listener :=
  ⟨.v4 ⟨127, 0, 0, 1⟩ 7000, "example.net:53", { outboundQueue := 2 }⟩

/-- Two clients send two datagrams each, and a third one cannot be served. -/
def pairBurst : List Arrival :=
  let a : Endpoint := .v4 ⟨10, 0, 0, 1⟩ 4001
  let b : Endpoint := .v4 ⟨10, 0, 0, 2⟩ 4001
  let c : Endpoint := .v4 ⟨10, 0, 0, 3⟩ 4001
  let free : Opening := ⟨.ok [.v4 ⟨192, 0, 2, 1⟩ 53], .ok ()⟩
  let busy : Opening := ⟨free.lookup, .error .networkUnreachable⟩
  [⟨.ofMillis 2, free, ⟨b, [2]⟩⟩, ⟨.ofMillis 2, free, ⟨a, [3]⟩⟩, ⟨.ofMillis 3, busy, ⟨c, [4]⟩⟩,
   ⟨.ofMillis 3, free, ⟨a, [5]⟩⟩, ⟨.ofMillis 3, free, ⟨b, [6]⟩⟩]

/-- The first client has a datagram in its queue when they come, so that its second one is too
much. -/
theorem queuesKeepFirst_pair : ∃ start t r, pairListener.start? 1 65536 .zero = some start ∧
    Reachable start t r ∧ r.engine.running = true ∧ QueuesKeepFirst r.engine ∧
    (r.engine.burst pairBurst).dropped.map (·.payload) = [[5]] := by
  let a : Endpoint := .v4 ⟨10, 0, 0, 1⟩ 4001
  obtain ⟨start, t, r, started, reached, shape⟩ :=
    exists_reachable pairListener 1 65536
      [(.ofMillis 1, .receive ⟨a, [1]⟩),
       (.ofMillis 1, .take), (.ofMillis 1, .finish ⟨.ok [.v4 ⟨192, 0, 2, 1⟩ 53], .ok ()⟩)]
      (fun _ r => r.engine.running &&
        (r.engine.burst pairBurst).dropped.map (·.payload) == [[5]]) (by decide +kernel)
  obtain ⟨running, dropped⟩ := Bool.and_eq_true_iff.mp shape
  have bounded : Bounded r.engine := queuesKeepFirst.1 started reached
  exact ⟨start, t, r, started, reached, running, queuesKeepFirst.2.2 r.engine bounded,
    eq_of_beq dropped⟩

end Relay

end Udp

end SocketRelay
