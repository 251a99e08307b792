import SocketRelay.Proofs.Tcp.Directions
import Mathlib.Algebra.GroupWithZero.Nat

/-!
# Bytes in the counters and in the log

A pump adds the bytes of each direction to a counter when its connection has ended,
and tells them later in the log. So the counters have the bytes of the pumps that have
counted (`Totals.counted`), the log has those of the pumps that are closed
(`Totals.logged`), and both have the same when every pump is closed (`Totals.agree`).
-/

namespace SocketRelay.Tcp

def Stats.bytes (s : Stats) : Direction → UInt64
  | .up => s.bytesUp
  | .down => s.bytesDown

def Pump.bytes (p : Pump) (d : Direction) : UInt64 := (p.connection.transfer d).copy.bytes

def PumpStage.hasCounted (d : Direction) : PumpStage → Bool
  | .relaying | .ended => false
  | .countedUp => d = .up
  | _ => true

def PumpStage.isClosed : PumpStage → Bool
  | .closed => true
  | _ => false

def closedBytes (d : Direction) : Event → Nat
  | .connectionClosed _ _ up down =>
    match d with
    | .up => up.toNat
    | .down => down.toNat
  | _ => 0

def loggedBytes (d : Direction) (log : List Record) : Nat :=
  (log.map fun record => closedBytes d record.event).sum

theorem loggedBytes_append (d : Direction) (log more : List Record) :
    loggedBytes d (log ++ more) = loggedBytes d log + loggedBytes d more := by
  unfold loggedBytes
  rw [List.map_append, List.sum_append]

/-- The bytes of a direction of the pumps whose stage passes a test. -/
def volume (test : PumpStage → Bool) (d : Direction) (pumps : List Pump) : Nat :=
  (pumps.map fun p => if test p.stage then (p.bytes d).toNat else 0).sum

theorem volume_split (test : PumpStage → Bool) (d : Direction) (left right : List Pump) (p : Pump) :
    volume test d (left ++ p :: right) =
      volume test d (left ++ right) + if test p.stage then (p.bytes d).toNat else 0 := by
  unfold volume
  simp only [List.map_append, List.map_cons, List.sum_append, List.sum_cons]
  omega

namespace Relay

variable {r r' : Relay} {d : Direction}

theorem loggedBytes_tell (r : Relay) (number : Nat) (events : List Event) :
    loggedBytes d (r.tell number events).log =
      loggedBytes d r.log + (events.map (closedBytes d)).sum := by
  unfold tell
  rw [loggedBytes_append]
  unfold loggedBytes
  rw [List.map_map]
  rfl

theorem loggedBytes_report (r : Relay) (p : Pump) (dir : Direction) :
    loggedBytes d (r.tell p.client.number (p.report r.target dir)).log = loggedBytes d r.log := by
  rw [loggedBytes_tell]
  unfold Pump.report
  split <;> rfl

structure Totals (r : Relay) : Prop where
  counted : ∀ d, r.stats.bytes d = .ofNat (volume (PumpStage.hasCounted d) d r.pumps)
  logged : ∀ d, loggedBytes d r.log = volume PumpStage.isClosed d r.pumps

theorem Totals.of_same (h : Totals r) (stats : ∀ d, r'.stats.bytes d = r.stats.bytes d)
    (pumps : ∀ test d, test .relaying = false → volume test d r'.pumps = volume test d r.pumps)
    (log : ∀ d, loggedBytes d r'.log = loggedBytes d r.log) : Totals r' := by
  refine ⟨fun d => ?_, fun d => ?_⟩
  · rw [stats, h.counted, pumps _ d rfl]
  · rw [log, h.logged, pumps _ d rfl]

/-- A pump that settles counts the bytes of a direction, or leaves the counter as it is. -/
theorem Settles.counts {p : Pump} {stage : PumpStage} (h : Settles r p stage r') (d : Direction) :
    stage.hasCounted d = p.stage.hasCounted d ∧ r'.stats.bytes d = r.stats.bytes d ∨
    p.stage.hasCounted d = false ∧ stage.hasCounted d = true ∧
      r'.stats.bytes d = r.stats.bytes d + p.bytes d := by
  cases h with
  | countedUp stage =>
    rw [stage]
    cases d with
    | up => exact .inr ⟨rfl, rfl, rfl⟩
    | down => exact .inl ⟨rfl, rfl⟩
  | countedDown stage =>
    rw [stage]
    cases d with
    | up => exact .inl ⟨rfl, rfl⟩
    | down => exact .inr ⟨rfl, rfl, rfl⟩
  | ended stage | reportedUp stage | reportedDown stage | inactive stage | completed stage
  | closed stage =>
    rw [stage]
    exact .inl ⟨rfl, rfl⟩

/-- A pump that settles tells its bytes when it closes, and no bytes before. -/
theorem Settles.tells {p : Pump} {stage : PumpStage} (h : Settles r p stage r') (d : Direction) :
    p.stage.isClosed = false ∧ loggedBytes d r'.log =
      loggedBytes d r.log + if stage.isClosed then (p.bytes d).toNat else 0 := by
  cases h with
  | ended stage | countedUp stage | countedDown stage | inactive stage | completed stage =>
    rw [stage]
    exact ⟨rfl, rfl⟩
  | reportedUp stage | reportedDown stage =>
    rw [stage]
    exact ⟨rfl, loggedBytes_report ..⟩
  | closed stage =>
    rw [stage, loggedBytes_tell]
    refine ⟨rfl, ?_⟩
    cases d <;> rfl

theorem Totals.settled {left right : List Pump} {p : Pump} {stage : PumpStage} (h : Totals r)
    (split : r.pumps = left ++ p :: right) (settles : Settles r p stage r') :
    Totals { r' with pumps := left ++ { p with stage } :: right } := by
  refine ⟨fun d => ?_, fun d => ?_⟩
  · have counted := h.counted d
    rw [split, volume_split] at counted
    rw [volume_split]
    rcases settles.counts d with ⟨same, stats⟩ | ⟨before, after, stats⟩
    · rw [same]
      exact stats.trans counted
    · rw [before, if_neg Bool.false_ne_true, Nat.add_zero] at counted
      rw [after, if_pos rfl, UInt64.ofNat_add, ← counted]
      exact stats.trans (congrArg _ UInt64.ofNat_toNat.symm)
  · have logged := h.logged d
    obtain ⟨before, log⟩ := settles.tells d
    rw [split, volume_split, before, if_neg Bool.false_ne_true, Nat.add_zero] at logged
    rw [volume_split, ← logged]
    exact log

theorem Totals.move {bufferSize : UInt64} (h : Totals r) (schedules : Schedules bufferSize r)
    (m : Move r r') : Totals r' := by
  cases m with
  | accepted | handedOff | dialFailed | dialed =>
    exact h.of_same (fun d => by cases d <;> rfl) (fun _ _ _ => rfl) fun _ => rfl
  | acceptFailed =>
    refine h.of_same (fun d => by cases d <;> rfl) (fun _ _ _ => rfl) fun d => ?_
    exact loggedBytes_append ..
  | refused split =>
    refine h.of_same (fun _ => rfl) (fun _ _ _ => rfl) fun d => ?_
    exact loggedBytes_tell ..
  | opened split =>
    refine h.of_same (fun _ => rfl) (fun test d out => ?_) fun d => loggedBytes_tell ..
    simp only [tell, volume_split, out, Bool.false_eq_true, if_false, List.append_nil, Nat.add_zero]
  | copied split step =>
    have relaying := schedules.relaying (mem_of_split split) step
    refine h.of_same (fun _ => rfl) (fun test d out => ?_) fun _ => rfl
    simp only [split, volume_split, relaying, out, Bool.false_eq_true, if_false]
  | settled split settles => exact h.settled split settles

theorem Reachable.totals {l : Listener} {cores : UInt64} (reached : Reachable (l.start cores) r) :
    Totals r := by
  refine reached.keeps (fun before m h => h.move before.schedules m) ⟨fun d => ?_, fun d => rfl⟩
  cases d <;> rfl

/-- When every pump is closed, the log has what the counters have. -/
theorem Totals.agree (h : Totals r) (closed : ∀ p ∈ r.pumps, p.stage = .closed) (d : Direction) :
    r.stats.bytes d = .ofNat (loggedBytes d r.log) := by
  rw [h.counted, h.logged]
  congr 1
  unfold volume
  refine congrArg List.sum (List.map_congr_left fun p mem => ?_)
  rw [closed p mem]
  rfl

end Relay

end SocketRelay.Tcp
