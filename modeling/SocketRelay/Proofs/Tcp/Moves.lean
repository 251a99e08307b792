import SocketRelay.Tcp.Relay
import Mathlib.Data.List.Basic

/-!
# What can happen to a relay

`Move r r'` lists the single changes of a relay: one for each thing that the
accept loop, a worker or a pump does, and `Settles` those of a pump that settles its
accounts. An action is a move (`act_move`), so what every move keeps holds of all
states of a relay (`Reachable.keeps`). What is logged about a client is told in one
form, `tell`.
-/

namespace SocketRelay.Tcp

open Net

theorem exists_split {α : Type} {l : List α} {i : Nat} {a : α} (h : l[i]? = some a) :
    ∃ left right, l = left ++ a :: right ∧ (∀ b, l.set i b = left ++ b :: right) ∧
      l.eraseIdx i = left ++ right := by
  obtain ⟨lt, rfl⟩ := List.getElem?_eq_some_iff.mp h
  refine ⟨l.take i, l.drop (i + 1), ?_, fun b => ?_, List.eraseIdx_eq_take_drop_succ ..⟩
  · rw [List.getElem_cons_drop, List.take_append_drop]
  · rw [List.set_eq_take_append_cons_drop, if_pos lt]

theorem mem_of_split {α : Type} {l left right : List α} {a : α} (split : l = left ++ a :: right) :
    a ∈ l := split ▸ List.mem_append_right _ List.mem_cons_self

theorem forall_mem_split {α : Type} {P : α → Prop} {left right : List α} {a : α} :
    (∀ x ∈ left ++ a :: right, P x) ↔ (∀ x ∈ left, P x) ∧ P a ∧ ∀ x ∈ right, P x := by
  rw [List.forall_mem_append, List.forall_mem_cons]

def Pump.report (p : Pump) (target : String) (d : Direction) : List Event :=
  match (p.connection.transfer d).copy.failure with
  | some cause => [.copyFailed p.client.peer target d cause.message]
  | none => []

theorem Pump.mem_report {p : Pump} {target : String} {d : Direction} {event : Event}
    (mem : event ∈ p.report target d) :
    ∃ error, event = .copyFailed p.client.peer target d error := by
  unfold Pump.report at mem
  split at mem
  · exact ⟨_, List.mem_singleton.mp mem⟩
  · cases mem

def Pump.closing (p : Pump) (target : String) : Event :=
  .connectionClosed p.client.peer target p.connection.up.copy.bytes p.connection.down.copy.bytes

namespace Relay

/-- Logs events about a client. -/
def tell (r : Relay) (number : Nat) (events : List Event) : Relay :=
  { r with log := r.log ++ events.map fun event => ⟨some number, event⟩ }

theorem reportCopy_eq (r : Relay) (p : Pump) (d : Direction) :
    r.reportCopy p d = r.tell p.client.number (p.report r.target d) := by
  unfold reportCopy Pump.report
  cases (p.connection.transfer d).copy.failure with
  | some cause => rfl
  | none => simp only [tell, List.map_nil, List.append_nil]

/-- The steps of a pump that settles its accounts. -/
inductive Settles (r : Relay) (p : Pump) : PumpStage → Relay → Prop where
  | ended (stage : p.stage = .relaying) (done : p.connection.isDone = true) : Settles r p .ended r
  | countedUp (stage : p.stage = .ended) : Settles r p .countedUp
    { r with stats.bytesUp := r.stats.bytesUp + p.connection.up.copy.bytes }
  | countedDown (stage : p.stage = .countedUp) : Settles r p .countedDown
    { r with stats.bytesDown := r.stats.bytesDown + p.connection.down.copy.bytes }
  | reportedUp (stage : p.stage = .countedDown) :
    Settles r p .reportedUp (r.tell p.client.number (p.report r.target .up))
  | reportedDown (stage : p.stage = .reportedUp) :
    Settles r p .reportedDown (r.tell p.client.number (p.report r.target .down))
  | inactive (stage : p.stage = .reportedDown) :
    Settles r p .inactive { r with stats.active := r.stats.active - 1 }
  | completed (stage : p.stage = .inactive) :
    Settles r p .completed { r with stats.completed := r.stats.completed + 1 }
  | closed (stage : p.stage = .completed) :
    Settles r p .closed (r.tell p.client.number [p.closing r.target])

/-- A pump that settles changes counters and the log. -/
theorem Settles.eq {r r' : Relay} {p : Pump} {stage : PumpStage} (h : Settles r p stage r') :
    r' = { r with stats := r'.stats, log := r'.log } := by
  cases h <;> rfl

theorem settlePump_settles {r r' : Relay} {p : Pump} {stage : PumpStage}
    (h : r.settlePump p = some (stage, r')) : Settles r p stage r' := by
  unfold settlePump at h
  split at h
  · next relaying =>
    split at h
    · next done => cases h; exact .ended relaying done
    · cases h
  · next ended => cases h; exact .countedUp ended
  · next counted => cases h; exact .countedDown counted
  · next counted => cases h; rw [reportCopy_eq]; exact .reportedUp counted
  · next reported => cases h; rw [reportCopy_eq]; exact .reportedDown reported
  · next reported => cases h; exact .inactive reported
  · next inactive => cases h; exact .completed inactive
  · next completed => cases h; exact .closed completed
  · cases h

inductive Move : Relay → Relay → Prop where
  | accepted {r : Relay} (peer : Endpoint) (free : r.held = none) : Move r
    { r with
      held := some ⟨r.nextClient, peer⟩
      nextClient := r.nextClient + 1
      stats.accepted := r.stats.accepted + 1 }
  | acceptFailed (r : Relay) (error : String) : Move r
    ({ r with stats.acceptErrors := r.stats.acceptErrors + 1 }.record none
      (.acceptFailed r.listen error))
  | handedOff {r : Relay} {client : Client} (held : r.held = some client)
    (free : r.workers.length < r.workerCount) : Move r
    { r with held := none, workers := r.workers ++ [⟨client, .dialing⟩] }
  | dialFailed {r : Relay} {left right : List Worker} {client : Client} (cause : IoError)
    (split : r.workers = left ++ ⟨client, .dialing⟩ :: right) : Move r
    { r with
      workers := left ++ ⟨client, .refused cause⟩ :: right
      stats.dialFailures := r.stats.dialFailures + 1 }
  | dialed {r : Relay} {left right : List Worker} {client : Client} (ends : Ends)
    (split : r.workers = left ++ ⟨client, .dialing⟩ :: right) : Move r
    { r with
      workers := left ++ ⟨client, .connected (.start r.settings.bufferSize ends)⟩ :: right
      stats.active := r.stats.active + 1 }
  | refused {r : Relay} {left right : List Worker} {client : Client} {cause : IoError}
    (split : r.workers = left ++ ⟨client, .refused cause⟩ :: right) : Move r
    (tell { r with workers := left ++ right } client.number
      [.connectionDialFailed client.peer r.target cause.message])
  | opened {r : Relay} {left right : List Worker} {client : Client} {connection : Connection}
    (split : r.workers = left ++ ⟨client, .connected connection⟩ :: right) : Move r
    (tell
      { r with
        workers := left ++ right
        pumps := r.pumps ++ [⟨client, connection, .relaying⟩] }
      client.number [.connectionOpened client.peer r.target])
  | copied {r : Relay} {left right : List Pump} {p : Pump} {d : Direction} {input : CopyInput}
    {connection : Connection} (split : r.pumps = left ++ p :: right)
    (step : p.connection.step d input = some connection) : Move r
    { r with pumps := left ++ { p with connection } :: right }
  | settled {r r' : Relay} {left right : List Pump} {p : Pump} {stage : PumpStage}
    (split : r.pumps = left ++ p :: right) (settles : Settles r p stage r') : Move r
    { r' with pumps := left ++ { p with stage } :: right }

theorem dialed_move {r r' : Relay} {i : Nat} {result : Except IoError Ends}
    (h : r.act (.dialed i result) = some r') : Move r r' := by
  simp only [act] at h
  split at h
  · cases h
  · next w found =>
    split at h
    · next dialing =>
      obtain ⟨left, right, split, set, -⟩ := exists_split found
      obtain ⟨client, stage⟩ := w
      cases dialing
      cases h
      cases result with
      | error cause =>
        simp only [endDial, set]
        exact .dialFailed cause split
      | ok ends =>
        simp only [endDial, set]
        exact .dialed ends split
    · cases h

theorem announce_move {r r' : Relay} {i : Nat} (h : r.act (.announce i) = some r') : Move r r' := by
  simp only [act] at h
  split at h
  · cases h
  · next w found =>
    obtain ⟨left, right, split, -, erase⟩ := exists_split found
    obtain ⟨client, stage⟩ := w
    rw [erase] at h
    cases stage with
    | dialing => cases h
    | refused cause => cases h; exact .refused split
    | connected connection => cases h; exact .opened split

theorem act_move {r r' : Relay} {a : Action} (h : r.act a = some r') : Move r r' := by
  cases a with
  | accept peer =>
    simp only [act] at h
    split at h
    · cases h
    · next free => cases h; exact .accepted peer free
  | acceptFailed cause =>
    simp only [act] at h
    split at h
    · cases h
    · cases h; exact .acceptFailed r cause.message
  | handOff =>
    simp only [act] at h
    split at h
    · cases h
    · next client held =>
      split at h
      · next free => cases h; exact .handedOff held free
      · cases h
  | dialed i result => exact dialed_move h
  | announce i => exact announce_move h
  | copy i d input =>
    simp only [act] at h
    split at h
    · cases h
    · next p found =>
      obtain ⟨left, right, split, set, -⟩ := exists_split found
      obtain ⟨connection, step, rfl⟩ := Option.map_eq_some_iff.mp h
      rw [set]
      exact .copied split step
  | settle i =>
    simp only [act] at h
    split at h
    · cases h
    · next p found =>
      obtain ⟨left, right, split, set, -⟩ := exists_split found
      obtain ⟨⟨stage, r''⟩, step, rfl⟩ := Option.map_eq_some_iff.mp h
      have settles := settlePump_settles step
      have pumps : r''.pumps = r.pumps := by rw [settles.eq]
      dsimp only
      rw [pumps, set]
      exact .settled split settles

/-- What holds at the start and is kept by every move from a reachable state holds of every
reachable state. -/
theorem Reachable.keeps {P : Relay → Prop} {start r : Relay} (reached : Reachable start r)
    (move : ∀ {r r'}, Reachable start r → Move r r' → P r → P r') (first : P start) : P r := by
  induction reached with
  | start => exact first
  | step before h ih => exact move before (act_move h) ih

def run? (r : Relay) : List Action → Option Relay
  | [] => some r
  | a :: rest => (r.act a).bind fun r' => r'.run? rest

theorem Reachable.run? {start r r' : Relay} (reached : Reachable start r) {actions : List Action}
    (h : r.run? actions = some r') : Reachable start r' := by
  induction actions generalizing r with
  | nil => cases h; exact reached
  | cons a rest ih =>
    obtain ⟨next, act, h⟩ := Option.bind_eq_some_iff.mp h
    exact ih (reached.step act) h

/-- A run that can be computed leads to a state that is reachable. -/
theorem exists_reachable (start : Relay) (actions : List Action) (check : Relay → Bool)
    (h : (start.run? actions).any check = true) : ∃ r, Reachable start r ∧ check r = true := by
  obtain ⟨r, ran, checked⟩ := (Option.any_eq_true _ _).mp h
  exact ⟨r, Reachable.start.run? ran, checked⟩

end Relay

end SocketRelay.Tcp
