import SocketRelay.Proofs.Tcp.Accounting
import SocketRelay.Proofs.Tcp.Directions

/-!
# What the log says about a client

The story of a client is what the log says about it. Where the client is tells what
its story must be (`tales`): nothing while it waits or a worker dials for it, the refusal
if its dial failed, and with a pump what that pump has told so far. A move adds to
one story what it adds to one tale (`Telling`), so the log tells every client's tale
(`Reachable.told`).
-/

namespace SocketRelay.Tcp

open Net

def story (log : List Record) (number : Nat) : List Event :=
  log.filterMap fun record => if record.client = some number then some record.event else none

def Pump.ending (p : Pump) (target : String) : List Event :=
  p.report target .up ++ p.report target .down ++ [p.closing target]

/-- What was told about the connection of a pump when it is at its stage. -/
def Pump.story (p : Pump) (target : String) : List Event :=
  .connectionOpened p.client.peer target ::
    match p.stage with
    | .relaying | .ended | .countedUp | .countedDown => []
    | .reportedUp => p.report target .up
    | .reportedDown | .inactive | .completed => p.report target .up ++ p.report target .down
    | .closed => p.ending target

theorem story_append (log more : List Record) (number : Nat) :
    story (log ++ more) number = story log number ++ story more number := List.filterMap_append ..

namespace Relay

variable {r r' : Relay}

theorem story_record (r : Relay) (event : Event) (number : Nat) :
    story (r.record none event).log number = story r.log number := by
  unfold record
  rw [story_append]
  exact List.append_nil _

theorem story_tell (r : Relay) (number : Nat) (events : List Event) (other : Nat) :
    story (r.tell number events).log other =
      story r.log other ++ if number = other then events else [] := by
  unfold tell
  rw [story_append]
  congr 1
  unfold story
  by_cases same : number = other
  · simp [same]
  · simp [same]

/-- The clients that were accepted, each with what was told about it. -/
def tales (r : Relay) : List (Nat × List Event) :=
  r.held.toList.map (fun client => (client.number, [])) ++
  r.workers.map (fun w => (w.client.number, [])) ++
  r.pumps.map (fun p => (p.client.number, p.story r.target)) ++
  (refusals r.log).map fun refusal => (refusal.1, [refusal.2])

theorem numbers_tales (r : Relay) : r.tales.map (·.1) = r.waiting ++ r.taken := by
  simp [tales, waiting, taken, Function.comp_def]

theorem tales_worker {left right : List Worker} {w : Worker}
    (split : r.workers = left ++ w :: right) :
    r.tales.Perm ((w.client.number, []) :: tales { r with workers := left ++ right }) := by
  simp only [tales, split, List.map_append, List.map_cons, List.append_assoc, List.cons_append]
  exact (List.perm_middle.append_left _).trans List.perm_middle

theorem tales_pump {left right : List Pump} {p : Pump} (split : r.pumps = left ++ p :: right) :
    r.tales.Perm ((p.client.number, p.story r.target) ::
      tales { r with pumps := left ++ right }) := by
  simp only [tales, split, List.map_append, List.map_cons, List.append_assoc, List.cons_append]
  exact ((List.perm_middle.append_left _).append_left _).trans
    ((List.perm_middle.append_left _).trans List.perm_middle)

/-- What a move does to the tales, and that it does the same to the log. -/
inductive Telling (r r' : Relay) : Prop where
  | silent (tales : r'.tales.Perm r.tales)
    (log : ∀ number, story r'.log number = story r.log number)
  | fresh (tales : r'.tales.Perm ((r.nextClient, []) :: r.tales)) (log : r'.log = r.log)
  | told (number : Nat) (events more : List Event) (others : List (Nat × List Event))
    (before : r.tales.Perm ((number, events) :: others))
    (after : r'.tales.Perm ((number, events ++ more) :: others))
    (log : ∀ other, story r'.log other = story r.log other ++ if number = other then more else [])

/-- A pump that settles goes on with its story. -/
theorem Settles.story {p : Pump} {stage : PumpStage} (h : Settles r p stage r') : ∃ more,
    Pump.story { p with stage } r.target = p.story r.target ++ more ∧
    ∀ other, Tcp.story r'.log other =
      Tcp.story r.log other ++ if p.client.number = other then more else [] := by
  cases h with
  | ended stage | countedUp stage | countedDown stage =>
    refine ⟨[], ?_, fun other => ?_⟩
    · simp only [Pump.story, stage, List.append_nil]
    · rw [ite_self, List.append_nil]
  | inactive stage | completed stage =>
    refine ⟨[], ?_, fun other => ?_⟩
    · simp only [Pump.story, stage, List.append_nil]
      rfl
    · rw [ite_self, List.append_nil]
  | reportedUp stage =>
    refine ⟨_, ?_, fun other => story_tell ..⟩
    simp only [Pump.story, stage]
    rfl
  | reportedDown stage =>
    refine ⟨_, ?_, fun other => story_tell ..⟩
    simp only [Pump.story, stage]
    rfl
  | closed stage =>
    refine ⟨_, ?_, fun other => story_tell ..⟩
    simp only [Pump.story, stage]
    rfl

theorem Move.telling {bufferSize : UInt64} (m : Move r r') (schedules : Schedules bufferSize r) :
    Telling r r' := by
  cases m with
  | accepted peer free =>
    refine .fresh (.of_eq ?_) rfl
    simp only [tales, free]
    rfl
  | acceptFailed =>
    refine .silent (.of_eq ?_) fun number => story_record ..
    simp only [tales, refusals_record]
    rfl
  | handedOff held free =>
    refine .silent ?_ fun number => rfl
    simp only [tales, held, List.map_append, List.append_assoc]
    exact List.perm_middle
  | dialFailed cause split | dialed ends split =>
    refine .silent (.of_eq ?_) fun number => rfl
    simp only [tales, split, List.map_append, List.map_cons]
  | refused split =>
    refine .told _ [] _ _ (tales_worker split) ?_ fun other => story_tell ..
    rw [tales, refusals_refuse, List.map_append, ← List.append_assoc]
    exact List.perm_append_singleton ..
  | opened split =>
    refine .told _ [] _ _ (tales_worker split) ?_ fun other => story_tell ..
    refine (tales_pump rfl).trans (.of_eq ?_)
    simp only [tales]
    rw [refusals_tell _ (List.forall_mem_singleton.mpr rfl), List.append_nil]
    rfl
  | copied split step =>
    have relaying := schedules.relaying (mem_of_split split) step
    refine .silent (.of_eq ?_) fun number => rfl
    simp only [tales, split, List.map_append, List.map_cons, Pump.story, relaying]
  | settled split settles =>
    obtain ⟨more, tale, log⟩ := settles.story
    have refusals := settles.refusals_eq
    refine .told _ _ more _ (tales_pump split) ?_ log
    rw [settles.eq] at refusals ⊢
    refine (tales_pump rfl).trans (.of_eq ?_)
    rw [← tale]
    simp only [tales, refusals]

structure Told (target : String) (r : Relay) : Prop where
  target : r.target = target
  tales : ∀ tale ∈ r.tales, story r.log tale.1 = tale.2
  /-- Nothing is known of clients that were not accepted yet. -/
  unknown : ∀ number, r.nextClient ≤ number → story r.log number = []

theorem Told.telling {workers : Nat} {target : String} (h : Told target r)
    (accounts : Accounts workers r) (same : r'.target = r.target)
    (next : r.nextClient ≤ r'.nextClient) (t : Telling r r') : Told target r' := by
  have places := accounts.places
  rw [← numbers_tales] at places
  have apart := places.nodup_iff.mpr List.nodup_range
  refine ⟨same.trans h.target, ?_, ?_⟩
  · cases t with
    | silent tales log =>
      intro tale mem
      rw [log]
      exact h.tales tale (tales.mem_iff.mp mem)
    | fresh tales log =>
      intro tale mem
      rw [log]
      rcases List.mem_cons.mp (tales.mem_iff.mp mem) with rfl | mem
      · exact h.unknown _ (Nat.le_refl _)
      · exact h.tales tale mem
    | told number events more others before after log =>
      have distinct := (before.map (·.1)).nodup_iff.mp apart
      intro tale mem
      rw [log]
      rcases List.mem_cons.mp (after.mem_iff.mp mem) with rfl | mem
      · rw [if_pos rfl, h.tales _ (before.mem_iff.mpr List.mem_cons_self)]
      · have other : number ≠ tale.1 := by
          rintro rfl
          exact (List.nodup_cons.mp distinct).1 (List.mem_map.mpr ⟨tale, mem, rfl⟩)
        rw [if_neg other, List.append_nil]
        exact h.tales tale (before.mem_iff.mpr (List.mem_cons_of_mem _ mem))
  · intro other beyond
    have known := h.unknown other (Nat.le_trans next beyond)
    cases t with
    | silent tales log => rw [log, known]
    | fresh tales log => rw [log, known]
    | told number events more others before after log =>
      have accepted : number ∈ List.range r.nextClient := by
        refine places.mem_iff.mp (List.mem_map.mpr ⟨(number, events), ?_, rfl⟩)
        exact before.mem_iff.mpr List.mem_cons_self
      rw [log, known, List.nil_append, if_neg]
      rw [List.mem_range] at accepted
      omega

theorem Move.target (m : Move r r') : r'.target = r.target := by
  cases m with
  | settled split settles => rw [settles.eq]
  | accepted | acceptFailed | handedOff | dialFailed | dialed | refused | opened | copied => rfl

theorem told_start (l : Listener) (cores : UInt64) : Told l.target (l.start cores) := by
  refine ⟨rfl, fun tale mem => ?_, fun number _ => rfl⟩
  cases mem

/-- The log tells the tale of every client. -/
theorem Reachable.told {l : Listener} {cores : UInt64} (reached : Reachable (l.start cores) r) :
    Told l.target r :=
  reached.keeps (fun before m h => h.telling before.accounts m.target m.custody.nextClient_le
    (m.telling before.schedules)) (told_start l cores)

end Relay

end SocketRelay.Tcp
