import SocketRelay.Proofs.Udp.Resolution
import SocketRelay.Proofs.Udp.SessionTable
import Mathlib.Data.List.Chain

/-!
# The log tells the table

Of all that an engine logs, the events that create and remove sessions say what
the table is. For each client they take turns, and the last of them is the
creation of the client's session or, if there is none, no creation
(`Engine.Turns`). Over all clients the creations are numbered from one, and they
name one remote, which the first lookup with an answer gave
(`Engine.run_sessionLog`).
-/

namespace SocketRelay

def Event.isSessionChange : Event → Bool
  | .sessionCreated .. | .sessionEvicted .. => true
  | _ => false

def Event.isCreation : Event → Bool
  | .sessionCreated .. => true
  | _ => false

def Event.createdId? : Event → Option UInt64
  | .sessionCreated _ id _ => some id
  | _ => none

/-- Whether the event is about sessions of the client whose address has this text. -/
def Event.isFor (key : String) (event : Event) : Bool := event.client?.any (·.text = key)

namespace Udp

open Net

/-- The event that created a session. -/
def Session.creation (s : Session) : Event := .sessionCreated s.client s.id s.remote

namespace Engine

variable {e e' : Engine} {now : Instant} {key : String} {s s' : Session}

def sessionLog (e : Engine) : List Event := e.log.filter (·.isSessionChange)

def sessionEvents (e : Engine) (key : String) : List Event := e.sessionLog.filter (·.isFor key)

theorem sessionLog_append {more : List Event} (log : e'.log = e.log ++ more) :
    e'.sessionLog = e.sessionLog ++ more.filter (·.isSessionChange) := by
  rw [sessionLog, log, List.filter_append, sessionLog]

theorem sessionLog_change {event : Event} (change : event.isSessionChange = true)
    (log : e'.log = e.log ++ [event]) : e'.sessionLog = e.sessionLog ++ [event] := by
  rw [sessionLog_append log, List.filter_cons_of_pos change, List.filter_nil]

theorem sessionEvents_change {event : Event} {client : Endpoint}
    (log : e'.sessionLog = e.sessionLog ++ [event]) (about : event.client? = some client)
    (key : String) : e'.sessionEvents key =
      if client.text = key then e.sessionEvents key ++ [event] else e.sessionEvents key := by
  rw [sessionEvents, log, List.filter_append, List.filter_cons, List.filter_nil, Event.isFor, about,
    Option.any_some, ← sessionEvents]
  by_cases own : client.text = key
  · rw [if_pos own, if_pos (decide_eq_true own)]
  · rw [if_neg own, if_neg (by simpa using own), List.append_nil]

theorem sessionLog_same {more : List Event} (log : e'.log = e.log ++ more)
    (other : ∀ event ∈ more, event.isSessionChange = false) : e'.sessionLog = e.sessionLog := by
  have none : more.filter (·.isSessionChange) = [] :=
    List.filter_eq_nil_iff.mpr fun event h => by rw [other event h]; exact Bool.false_ne_true
  rw [sessionLog_append log, none, List.append_nil]

theorem sessionLog_record {event : Event} (other : event.isSessionChange = false) :
    (e.record event).sessionLog = e.sessionLog :=
  sessionLog_same rfl fun _ h => List.mem_singleton.mp h ▸ other

theorem sessionLog_apply (e : Engine) (now : Instant) (s : Session) (effect : Effect) :
    (e.apply now s effect).sessionLog = e.sessionLog := by
  unfold sessionLog
  rw [← List.filterMap_eq_filter]
  exact filterMap_log_apply (fun _ _ _ => rfl) (fun _ _ => rfl) e now s effect

theorem sessionLog_enqueue (d : Datagram) :
    (e.enqueue now s key d).sessionLog = e.sessionLog := by
  refine sessionLog_same (log_enqueue key) fun event h => ?_
  split at h
  · cases h
  · rw [List.mem_singleton.mp h]; rfl

theorem isSessionChange_openFailure (e : Engine) (client : Endpoint) (error : Error) :
    (e.openFailure client error).isSessionChange = false := by
  unfold openFailure
  split <;> rfl

theorem creation_stepSession {isOpen : Bool} {input : TaskInput} {effect : Effect}
    (h : e.stepSession now s isOpen input = some (s', effect)) : s'.creation = s.creation := by
  obtain ⟨-, f, -, rfl⟩ | ⟨-, r, -, -, rfl⟩ := stepSession_cases h
  · rfl
  · rfl

/-! ## The events of one client -/

/-- Creations and removals that take turns and leave the session with this creation. -/
structure Turns (events : List Event) (live : Option Event) : Prop where
  takeTurns : events.IsChain fun a b => a.isCreation ≠ b.isCreation
  first : ∀ event ∈ events.head?, event.isCreation = true
  last : events.getLast?.filter (·.isCreation) = live

namespace Turns

variable {events : List Event} {live : Option Event} {event : Event}

theorem nil : Turns [] none := ⟨.nil, fun _ h => (by cases h), rfl⟩

theorem append (h : Turns events live) (other : event.isCreation = live.isNone)
    (now : Option Event) (left : now = if event.isCreation then some event else none) :
    Turns (events ++ [event]) now := by
  have turn : ∀ before ∈ events.getLast?, before.isCreation ≠ event.isCreation := by
    intro before hb
    rw [other, ← h.last, hb, Option.filter_some]
    cases before.isCreation <;> simp
  refine ⟨h.takeTurns.append (.singleton _) fun a ha b hb => ?_, ?_, ?_⟩
  · cases hb
    exact turn a ha
  · intro first h'
    cases events with
    | nil =>
      cases h'
      rw [other, ← h.last]
      rfl
    | cons a events => exact h.first first h'
  · rw [List.getLast?_concat, Option.filter_some, left]

theorem created (h : Turns events none) (client : Endpoint) (id : UInt64) (remote : Endpoint) :
    Turns (events ++ [.sessionCreated client id remote])
      (some (.sessionCreated client id remote)) :=
  h.append rfl _ rfl

theorem evicted {creation : Event} (h : Turns events (some creation)) (client : Endpoint)
    (reason : EvictionReason) : Turns (events ++ [.sessionEvicted client reason]) none :=
  h.append rfl _ rfl

end Turns

/-! ## All clients -/

structure SessionsLogged (e : Engine) : Prop where
  turns : ∀ key, Turns (e.sessionEvents key) ((e.session? key).map Session.creation)
  numbered : e.sessionLog.filterMap (·.createdId?) =
    (List.range e.everySession.length).map fun i => UInt64.ofNat (i + 1)
  remote : ∀ client id remote, .sessionCreated client id remote ∈ e.sessionLog →
    e.resolved = some remote

theorem sessionsLogged_start (target : String) (settings : Settings) (now : Instant) :
    SessionsLogged (start target settings now) :=
  ⟨fun _ => .nil, rfl, fun _ _ _ h => absurd h List.not_mem_nil⟩

namespace SessionsLogged

theorem of_same (h : SessionsLogged e) (log : e'.sessionLog = e.sessionLog)
    (sessions : ∀ key, (e'.session? key).map Session.creation =
      (e.session? key).map Session.creation)
    (length : e'.everySession.length = e.everySession.length)
    (resolved : ∀ remote, e.resolved = some remote → e'.resolved = some remote) :
    SessionsLogged e' := by
  refine ⟨fun key => ?_, ?_, fun client id remote mem => ?_⟩
  · rw [sessionEvents, log, sessions]
    exact h.turns key
  · rw [log, length]
    exact h.numbered
  · rw [log] at mem
    exact resolved remote (h.remote client id remote mem)

theorem found (h : SessionsLogged e) {lookup : Except IoError (List Endpoint)} {remote : Endpoint}
    (found : e.resolve lookup = .ok remote) :
    SessionsLogged { e with resolved := some remote } := by
  refine h.of_same rfl (fun _ => rfl) rfl fun other known => ?_
  unfold resolve at found
  rw [known] at found
  cases found
  rfl

theorem stopped (h : SessionsLogged e) (empty : e.table = []) : SessionsLogged e.stop := by
  refine h.of_same rfl (fun key => ?_) (by rw [everySession_stop]) fun _ known => known
  have none : e.session? key = none := by rw [session?, empty]; rfl
  rw [none]
  rfl

theorem create (h : SessionsLogged e) (table : Registered e) (now : Instant)
    {client remote : Endpoint} (absent : e.session? client.text = none)
    (known : e.resolved = some remote) : SessionsLogged (e.create now client remote) := by
  have log : (e.create now client remote).sessionLog =
      e.sessionLog ++ [.sessionCreated client (e.lastId + 1) remote] := sessionLog_change rfl rfl
  refine ⟨fun key => ?_, ?_, fun client' id remote' mem => ?_⟩
  · have before := h.turns key
    rw [sessionEvents_change log rfl]
    by_cases own : client.text = key
    · subst own
      rw [absent] at before
      rw [if_pos rfl, session?_create now remote absent]
      exact before.created client (e.lastId + 1) remote
    · rw [if_neg own, session?_create_of_ne now remote (Ne.symm own)]
      exact before
  · rw [log, List.filterMap_append, h.numbered, everySession_create, List.length_append,
      List.length_singleton, List.range_succ, List.map_append, table.last]
    simp [Event.createdId?]
  · rw [log] at mem
    rcases List.mem_append.mp mem with mem | mem
    · exact h.remote client' id remote' mem
    · cases List.mem_singleton.mp mem
      exact known

theorem evict (h : SessionsLogged e) (table : Registered e) {key : String} {s : Session}
    (live : e.session? key = some s) (reason : EvictionReason) :
    SessionsLogged (e.evict key reason) := by
  have own := table.text_of_session? live
  have log : (e.evict key reason).sessionLog =
      e.sessionLog ++ [.sessionEvicted s.client reason] := by
    refine sessionLog_change rfl ?_
    rw [evict_eq live]
    rfl
  refine ⟨fun k => ?_, ?_, fun client id remote mem => ?_⟩
  · have before := h.turns k
    rw [sessionEvents_change log rfl, session?_evict]
    by_cases here : k = key
    · subst here
      rw [live] at before
      rw [if_pos own, if_pos rfl]
      exact before.evicted s.client reason
    · have foreign : s.client.text ≠ k := own ▸ Ne.symm here
      rw [if_neg foreign, if_neg here]
      exact before
  · rw [log, List.filterMap_append, h.numbered, (everySession_evict table.unique live _).length_eq]
    exact List.append_nil _
  · rw [log] at mem
    rcases List.mem_append.mp mem with mem | mem
    · rw [evict_eq live]
      exact h.remote client id remote mem
    · cases List.mem_singleton.mp mem

theorem enqueue (h : SessionsLogged e) (table : Registered e) {d : Datagram}
    (live : e.session? d.source.text = some s) :
    SessionsLogged (e.enqueue now s d.source.text d) := by
  refine h.of_same (sessionLog_enqueue d) (fun key => ?_) ?_ fun remote known => ?_
  · rw [session?_enqueue live]
    split
    · next here => rw [here, live]; rfl
    · rfl
  · simpa using congrArg List.length
      ((everySession_enqueue now d table.unique live).map_eq (f := (·.id)) rfl)
  · rw [← known]
    exact enqueue_frame (·.resolved) (by intros; rfl) _

/-- A task's step after which the sessions stand for the same creations. -/
theorem apply (h : SessionsLogged e) (e₁ : Engine) (log : e₁.log = e.log)
    (sessions : ∀ key, (e₁.session? key).map Session.creation =
      (e.session? key).map Session.creation)
    (length : e₁.everySession.length = e.everySession.length)
    (resolved : e₁.resolved = e.resolved) (now : Instant) (s : Session) (effect : Effect) :
    SessionsLogged (e₁.apply now s effect) := by
  refine h.of_same ?_ (fun key => ?_) ?_ fun remote known => ?_
  · rw [sessionLog_apply, sessionLog, log, sessionLog]
  · rw [← sessions]
    exact apply_frame (fun e => (e.session? key).map Session.creation) (by intros; rfl)
  · rw [everySession_apply, length]
  · rw [← known, ← resolved]
    exact apply_frame (·.resolved) (by intros; rfl)

theorem move (m : Move now e e') (table : Registered e) (h : SessionsLogged e) :
    SessionsLogged e' := by
  cases m with
  | received | reportTaken => exact h.of_same rfl (fun _ => rfl) rfl fun _ known => known
  | readFailed | stalled =>
    exact h.of_same (sessionLog_record rfl) (fun _ => rfl) rfl fun _ known => known
  | resolved found => exact h.found found
  | refused error absent =>
    exact h.of_same (sessionLog_record (isSessionChange_openFailure ..)) (fun _ => rfl) rfl
      fun _ known => known
  | stopped size => exact h.stopped (table.table_eq_nil size)
  | created absent known size => exact h.create table now absent known
  | enqueued live => exact h.enqueue table live
  | swept live idle => exact h.evict table live _
  | reported live same => exact h.evict table live _
  | @stepped k s s' input effect live step =>
    refine h.apply (e.update k fun _ => s') rfl (fun key => ?_) ?_ rfl now s effect
    · rw [session?_update, live]
      split
      · next here => rw [here, live]; exact congrArg some (creation_stepSession step)
      · rfl
    · simpa using congrArg List.length
        ((everySession_update table.unique live fun _ => s').map_eq (f := Session.creation)
          (creation_stepSession step))
  | @drained index s s' input effect gone step =>
    refine h.apply { e with removed := e.removed.set index s' } rfl (fun _ => rfl) ?_ rfl
      now s effect
    simp [everySession]

end SessionsLogged

/-- What the log of an engine says about its table, after these inputs. -/
structure SessionLog (inputs : List Input) (e : Engine) : Prop where
  /-- The creations and removals of a client's sessions take turns. -/
  takeTurns : ∀ client : Endpoint,
    (e.sessionEvents client.text).IsChain fun a b => a.isCreation ≠ b.isCreation
  first : ∀ client : Endpoint, ∀ event ∈ (e.sessionEvents client.text).head?,
    event.isCreation = true
  /-- The last of them is a creation if and only if there is a session, and then it is the creation
  of that session. -/
  last : ∀ client : Endpoint, (e.sessionEvents client.text).getLast?.filter (·.isCreation) =
    (e.session? client.text).map Session.creation
  /-- Over all clients, the sessions are numbered in the order of their creation. -/
  numbered : e.log.filterMap (·.createdId?) =
    (List.range e.everySession.length).map fun i => UInt64.ofNat (i + 1)
  /-- Every creation names the address that the first lookup with an answer gave. -/
  remote : ∀ client id remote, .sessionCreated client id remote ∈ e.log →
    inputs.findSome? (·.found?) = some remote

theorem run_sessionLog (target : String) (settings : Settings) (began : Instant)
    (inputs : List Input) : SessionLog inputs ((start target settings began).run inputs) := by
  have logged : SessionsLogged ((start target settings began).run inputs) :=
    (run_keeps (P := fun e => Registered e ∧ SessionsLogged e)
      (fun m h => ⟨h.1.move m, h.2.move m h.1⟩)
      ⟨registered_start .., sessionsLogged_start ..⟩ inputs).2
  have untouched : Untouched (start target settings began) := fun _ => rfl
  refine ⟨fun client => (logged.turns client.text).takeTurns,
    fun client => (logged.turns client.text).first, fun client => (logged.turns client.text).last,
    ?_, fun client id remote mem => ?_⟩
  · rw [← logged.numbered, sessionLog, List.filterMap_filter]
    refine congrArg (List.filterMap · _) (funext fun event => ?_)
    cases event <;> rfl
  · have known := logged.remote client id remote (List.mem_filter.mpr ⟨mem, rfl⟩)
    exact untouched.run known

end Engine

end Udp

end SocketRelay
