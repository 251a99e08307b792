import SocketRelay.Proofs.Tcp.Moves
import SocketRelay.Proofs.Tcp.Transfers

/-!
# The two directions of a connection

A schedule gives each direction the inputs that are its own (`inputsOf`), and what
it does with them is what a transfer does that gets them alone
(`Connection.transfer_runSchedule`). So whether one direction goes on, what it
writes, reports and shuts down is nothing of the other's, and the pump of a
connection goes on as soon as both have ended (`Connection.runSchedule_independent`).
All that the connections of a relay go through are schedules (`Relay.Reachable.schedules`).
-/

namespace SocketRelay.Tcp

def inputsOf (d : Direction) (inputs : List (Direction × CopyInput)) : List CopyInput :=
  inputs.filterMap fun (dir, i) => if dir = d then some i else none

theorem inputsOf_cons (d dir : Direction) (i : CopyInput) (rest : List (Direction × CopyInput)) :
    inputsOf d ((dir, i) :: rest) = if dir = d then i :: inputsOf d rest else inputsOf d rest := by
  unfold inputsOf
  by_cases own : dir = d
  · simp only [List.filterMap_cons, if_pos own]
  · simp only [List.filterMap_cons, if_neg own]

/-- One direction of a connection that has copied nothing. -/
def Ends.transfer (e : Ends) (bufferSize : UInt64) : Direction → Transfer
  | .up => .start bufferSize e.clientSource { answers := e.remoteAnswers }
  | .down => .start bufferSize e.remoteSource { answers := e.clientAnswers }

theorem Ends.room_transfer (e : Ends) (bufferSize : UInt64) (d : Direction) :
    0 < (e.transfer bufferSize d).copy.bufferSize := by
  cases d <;> exact Nat.le_max_right ..

theorem Ends.isDone_transfer (e : Ends) (bufferSize : UInt64) (d : Direction) :
    (e.transfer bufferSize d).copy.isDone = false := by
  cases d <;> rfl

namespace Connection

variable {c c' : Connection} {d d' : Direction} {i : CopyInput}

theorem transfer_start (bufferSize : UInt64) (e : Ends) (d : Direction) :
    (start bufferSize e).transfer d = e.transfer bufferSize d := by
  cases d <;> rfl

theorem transfer_setTransfer (c : Connection) (d d' : Direction) (t : Transfer) :
    (c.setTransfer d t).transfer d' = if d = d' then t else c.transfer d' := by
  cases d <;> cases d' <;> rfl

theorem isDone_iff (c : Connection) :
    c.isDone = true ↔ ∀ d, (c.transfer d).copy.isDone = true := by
  unfold isDone
  rw [Bool.and_eq_true]
  constructor
  · rintro ⟨up, down⟩ d
    cases d with
    | up => exact up
    | down => exact down
  · intro both
    exact ⟨both .up, both .down⟩

/-- A direction takes its input or not for reasons of its own. -/
theorem step_isSome (c : Connection) (d : Direction) (i : CopyInput) :
    (c.step d i).isSome = !(c.transfer d).copy.isDone := by
  unfold step
  rw [Option.isSome_map, Transfer.move_isSome]

theorem transfer_step (h : c.step d i = some c') (d' : Direction) :
    c'.transfer d' = if d = d' then ((c.transfer d').move i).getD (c.transfer d')
      else c.transfer d' := by
  obtain ⟨t, moved, rfl⟩ := Option.map_eq_some_iff.mp h
  rw [transfer_setTransfer]
  split
  · next same =>
    subst same
    rw [moved]
    rfl
  · rfl

theorem transfer_getD_step (c : Connection) (d d' : Direction) (i : CopyInput) :
    ((c.step d i).getD c).transfer d' =
      if d = d' then ((c.transfer d').move i).getD (c.transfer d') else c.transfer d' := by
  cases h : c.step d i with
  | some c' => exact transfer_step h d'
  | none =>
    have refused := Option.map_eq_none_iff.mp h
    split
    · next same =>
      subst same
      rw [refused]
      rfl
    · rfl

/-- Each direction of a schedule is a run of its own. -/
theorem transfer_runSchedule (c : Connection) (d : Direction)
    (inputs : List (Direction × CopyInput)) :
    (c.runSchedule inputs).transfer d = (c.transfer d).runInputs (inputsOf d inputs) := by
  induction inputs generalizing c with
  | nil => rfl
  | cons first rest ih =>
    obtain ⟨dir, i⟩ := first
    rw [runSchedule, ih, transfer_getD_step, inputsOf_cons]
    by_cases own : dir = d
    · rw [if_pos own, if_pos own, Transfer.runInputs]
    · rw [if_neg own, if_neg own]

/-- A connection after a schedule, as two copies that know nothing of each other. -/
structure Independent (bufferSize : UInt64) (e : Ends) (inputs : List (Direction × CopyInput))
    (c : Connection) : Prop where
  /-- Each direction stands where it would stand alone with its own inputs: what it wrote, what
  it counted, its error and the shutdowns of its sink are the same. -/
  alone : ∀ d, c.transfer d = (e.transfer bufferSize d).runInputs (inputsOf d inputs)
  /-- A direction that ended without losing its task ended as a copy that runs alone to its
  end. -/
  whole : ∀ d, (∀ i ∈ inputsOf d inputs, i = .call) → (c.transfer d).copy.isDone = true →
    c.transfer d = (e.transfer bufferSize d).run
  /-- Nothing that the other direction does keeps a direction from its end. -/
  ends : ∀ d, (e.transfer bufferSize d).fuel ≤ (inputsOf d inputs).length →
    (c.transfer d).copy.isDone = true
  /-- A direction shuts its own sink down once, when it ends. -/
  shutdowns : ∀ d, (c.transfer d).sink.shutdowns =
    (e.transfer bufferSize d).sink.shutdowns + if (c.transfer d).copy.isDone then 1 else 0
  /-- A direction goes on until it has ended itself. -/
  goesOn : ∀ d i, (c.step d i).isSome = !(c.transfer d).copy.isDone
  untouched : ∀ d d' i c', d ≠ d' → c.step d i = some c' → c'.transfer d' = c.transfer d'
  /-- The pump that relays the connection goes on when both directions have ended. -/
  completes : ∀ (r : Relay) (p : Pump), p.connection = c → p.stage = .relaying →
    ((r.settlePump p).isSome = true ↔ ∀ d, (c.transfer d).copy.isDone = true)

theorem runSchedule_independent (bufferSize : UInt64) (e : Ends)
    (inputs : List (Direction × CopyInput)) :
    Independent bufferSize e inputs ((start bufferSize e).runSchedule inputs) := by
  have alone (d : Direction) : ((start bufferSize e).runSchedule inputs).transfer d =
      (e.transfer bufferSize d).runInputs (inputsOf d inputs) := by
    rw [transfer_runSchedule, transfer_start]
  refine ⟨alone, ?_, ?_, ?_, fun d i => step_isSome .., ?_, ?_⟩
  · intro d calls done
    rw [alone] at done ⊢
    exact Transfer.runInputs_eq_run (e.room_transfer bufferSize d) calls done
  · intro d enough
    rw [alone]
    have least := (e.transfer bufferSize d).potential_le_fuel
    exact Transfer.isDone_runInputs (e.room_transfer bufferSize d) (by omega)
  · intro d
    rw [alone]
    exact Transfer.shutdowns_runInputs (e.isDone_transfer bufferSize d) _
  · intro d d' i c' other step
    rw [transfer_step step, if_neg other]
  · intro r p same relaying
    unfold Relay.settlePump
    rw [relaying, ← isDone_iff, ← same]
    cases p.connection.isDone with
    | true => exact iff_of_true rfl rfl
    | false => exact iff_of_false Bool.false_ne_true Bool.false_ne_true

/-! ## The connections of a relay -/

/-- A connection with a buffer of this size that has gone through a schedule. -/
def Scheduled (bufferSize : UInt64) (c : Connection) : Prop :=
  ∃ e inputs, c = (start bufferSize e).runSchedule inputs

theorem runSchedule_append (c : Connection) (first second : List (Direction × CopyInput)) :
    c.runSchedule (first ++ second) = (c.runSchedule first).runSchedule second := by
  induction first generalizing c with
  | nil => rfl
  | cons input first ih => exact ih _

theorem Scheduled.step {bufferSize : UInt64} (h : Scheduled bufferSize c)
    (step : c.step d i = some c') : Scheduled bufferSize c' := by
  obtain ⟨e, inputs, rfl⟩ := h
  refine ⟨e, inputs ++ [(d, i)], ?_⟩
  rw [runSchedule_append, runSchedule, step]
  rfl

theorem step_eq_none (done : c.isDone = true) (d : Direction) (i : CopyInput) :
    c.step d i = none := by
  rw [← Option.isNone_iff_eq_none, ← Option.not_isSome, step_isSome, (isDone_iff c).mp done d]
  rfl

end Connection

namespace Relay

variable {r r' : Relay} {bufferSize : UInt64}

/-- Every connection of a relay has gone through a schedule, and a pump that does not relay any more
is at its end. -/
structure Schedules (bufferSize : UInt64) (r : Relay) : Prop where
  settings : r.settings.bufferSize = bufferSize
  workers : ∀ w ∈ r.workers, ∀ c, w.stage = .connected c → c.Scheduled bufferSize
  pumps : ∀ p ∈ r.pumps, p.connection.Scheduled bufferSize
  ended : ∀ p ∈ r.pumps, p.stage ≠ .relaying → p.connection.isDone = true

theorem Schedules.relaying (h : Schedules bufferSize r) {p : Pump} {d : Direction} {i : CopyInput}
    {c : Connection} (mem : p ∈ r.pumps) (step : p.connection.step d i = some c) :
    p.stage = .relaying := by
  by_contra past
  rw [Connection.step_eq_none (h.ended p mem past)] at step
  cases step

theorem Settles.isDone {p : Pump} {stage : PumpStage} (h : Settles r p stage r')
    (ended : p.stage ≠ .relaying → p.connection.isDone = true) : p.connection.isDone = true := by
  cases h with
  | ended _ done => exact done
  | countedUp stage | countedDown stage | reportedUp stage | reportedDown stage | inactive stage
  | completed stage | closed stage =>
    refine ended ?_
    rw [stage]
    intro same
    cases same

theorem Schedules.move (h : Schedules bufferSize r) (m : Move r r') : Schedules bufferSize r' := by
  have ⟨settings, workers, pumps, ended⟩ := h
  cases m with
  | accepted | acceptFailed => exact ⟨settings, workers, pumps, ended⟩
  | handedOff held free =>
    refine ⟨settings, ?_, pumps, ended⟩
    rw [List.forall_mem_append]
    refine ⟨workers, fun w mem c connected => ?_⟩
    rw [List.mem_singleton.mp mem] at connected
    cases connected
  | dialFailed cause split =>
    rw [split, forall_mem_split] at workers
    refine ⟨settings, forall_mem_split.mpr ⟨workers.1, ?_, workers.2.2⟩, pumps, ended⟩
    intro c connected
    cases connected
  | dialed ends split =>
    rw [split, forall_mem_split] at workers
    refine ⟨settings, forall_mem_split.mpr ⟨workers.1, ?_, workers.2.2⟩, pumps, ended⟩
    intro c connected
    cases connected
    exact ⟨ends, [], by rw [settings]; rfl⟩
  | refused split =>
    rw [split, forall_mem_split] at workers
    exact ⟨settings, List.forall_mem_append.mpr ⟨workers.1, workers.2.2⟩, pumps, ended⟩
  | opened split =>
    rw [split, forall_mem_split] at workers
    obtain ⟨left, connected, right⟩ := workers
    refine ⟨settings, List.forall_mem_append.mpr ⟨left, right⟩, ?_, ?_⟩
    · refine List.forall_mem_append.mpr ⟨pumps, fun p mem => ?_⟩
      rw [List.mem_singleton.mp mem]
      exact connected _ rfl
    · refine List.forall_mem_append.mpr ⟨ended, fun p mem relaying => ?_⟩
      rw [List.mem_singleton.mp mem] at relaying
      exact absurd rfl relaying
  | copied split step =>
    have relaying := h.relaying (mem_of_split split) step
    rw [split, forall_mem_split] at pumps ended
    refine ⟨settings, workers, ?_, ?_⟩
    · exact forall_mem_split.mpr ⟨pumps.1, pumps.2.1.step step, pumps.2.2⟩
    · exact forall_mem_split.mpr ⟨ended.1, fun past => absurd relaying past, ended.2.2⟩
  | settled split settles =>
    rw [split, forall_mem_split] at pumps ended
    have done := settles.isDone ended.2.1
    rw [settles.eq]
    refine ⟨settings, workers, ?_, ?_⟩
    · exact forall_mem_split.mpr pumps
    · exact forall_mem_split.mpr ⟨ended.1, fun _ => done, ended.2.2⟩

/-- What the connections of a relay go through are schedules. -/
theorem Reachable.schedules {l : Listener} {cores : UInt64}
    (reached : Reachable (l.start cores) r) : Schedules l.settings.bufferSize r := by
  refine reached.keeps (fun _ m h => h.move m) ⟨rfl, ?_, ?_, ?_⟩
  · intro w mem
    cases mem
  · intro p mem
    cases mem
  · intro p mem
    cases mem

end Relay

end SocketRelay.Tcp
