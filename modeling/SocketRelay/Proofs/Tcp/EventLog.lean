import SocketRelay.Proofs.Tcp.Stories
import SocketRelay.Proofs.Tcp.Volumes

/-!
# The event log of a relay

The start of a relay is its first record and no other one (`Reachable.logsStart`). Every
client whose dial has ended has one verdict in its story, and the story of a connection
is a beginning of what is told about it in all: that it was opened, how its copies failed,
and that it is closed. Main statement: `Reachable.keepsLog`.
-/

namespace SocketRelay.Tcp

open Net

def isStart : Event → Bool
  | .relayStarted .. => true
  | _ => false

def isVerdict : Event → Bool
  | .connectionDialFailed .. | .connectionOpened .. => true
  | _ => false

def isOpening : Event → Bool
  | .connectionOpened .. => true
  | _ => false

def isClosing : Event → Bool
  | .connectionClosed .. => true
  | _ => false

/-- Whether an event is about the clients of a relay. -/
def isTraffic : Event → Bool
  | .acceptFailed .. | .connectionDialFailed .. | .connectionOpened .. | .copyFailed ..
  | .connectionClosed .. => true
  | _ => false

theorem isStart_of_isTraffic {event : Event} (h : isTraffic event = true) :
    isStart event = false := by
  cases event with
  | relayStarted => cases h
  | _ => rfl

theorem of_isRefusal {event : Event} (h : isRefusal event = true) :
    isVerdict event = true ∧ isOpening event = false ∧ isClosing event = false := by
  cases event with
  | connectionDialFailed => exact ⟨rfl, rfl, rfl⟩
  | _ => cases h

/-- Whether the log tells of a connection that it was opened, and not that it is closed. -/
def IsOpen (log : List Record) (number : Nat) : Prop :=
  (∃ event ∈ story log number, isOpening event = true) ∧
    ∀ event ∈ story log number, isClosing event = false

/-! ## What a pump tells -/

def Pump.whole (p : Pump) (target : String) : List Event :=
  .connectionOpened p.client.peer target :: p.ending target

namespace Pump

variable {p : Pump} {target : String} {event : Event}

/-- A pump has told the beginning, in which nothing closes the connection, or all. -/
theorem story_cases (p : Pump) (target : String) :
    p.stage = .closed ∧ p.story target = p.whole target ∨
    p.stage ≠ .closed ∧ ∃ told, p.story target = .connectionOpened p.client.peer target :: told ∧
      told <+: p.report target .up ++ p.report target .down := by
  unfold story
  cases p.stage with
  | closed => exact .inl ⟨rfl, rfl⟩
  | relaying | ended | countedUp | countedDown =>
    exact .inr ⟨nofun, _, rfl, List.nil_prefix⟩
  | reportedUp => exact .inr ⟨nofun, _, rfl, List.prefix_append ..⟩
  | reportedDown | inactive | completed =>
    exact .inr ⟨nofun, _, rfl, List.prefix_refl _⟩

theorem story_prefix (p : Pump) (target : String) : p.story target <+: p.whole target := by
  rcases p.story_cases target with ⟨-, whole⟩ | ⟨-, told, story, begun⟩
  · exact whole ▸ List.prefix_refl _
  · rw [story]
    exact List.cons_prefix_cons.mpr ⟨rfl, begun.trans (List.prefix_append ..)⟩

theorem mem_reports (mem : event ∈ p.report target .up ++ p.report target .down) :
    ∃ d error, event = .copyFailed p.client.peer target d error := by
  rcases List.mem_append.mp mem with mem | mem
  · exact ⟨_, mem_report mem⟩
  · exact ⟨_, mem_report mem⟩

theorem countP_story (p : Pump) (target : String) : (p.story target).countP isVerdict = 1 := by
  have silent (told : List Event) (sub : ∀ event ∈ told,
      event ∈ p.report target .up ++ p.report target .down) : told.countP isVerdict = 0 := by
    refine List.countP_eq_zero.mpr fun event mem => ?_
    obtain ⟨d, error, rfl⟩ := mem_reports (sub event mem)
    exact Bool.false_ne_true
  rcases p.story_cases target with ⟨-, whole⟩ | ⟨-, told, story, begun⟩
  · rw [whole, Pump.whole, ending, List.countP_cons, List.countP_append, silent _ fun _ => id]
    rfl
  · rw [story, List.countP_cons, silent told fun _ mem => begun.subset mem]
    rfl

theorem isClosing_of_mem (mem : event ∈ Event.connectionOpened p.client.peer target ::
    (p.report target .up ++ p.report target .down)) : isClosing event = false := by
  rcases List.mem_cons.mp mem with rfl | mem
  · rfl
  · obtain ⟨d, error, rfl⟩ := mem_reports mem
    rfl

/-- Nothing is told of a connection after it was closed. -/
theorem story_last {before after : List Event}
    (split : p.story target = before ++ event :: after) (closing : isClosing event = true) :
    after = [] := by
  have other (mem : event ∈ Event.connectionOpened p.client.peer target ::
      (p.report target .up ++ p.report target .down)) : False := by
    rw [isClosing_of_mem mem] at closing
    cases closing
  rcases p.story_cases target with ⟨-, whole⟩ | ⟨-, told, story, begun⟩
  · rcases List.eq_nil_or_concat after with nothing | ⟨init, last, rfl⟩
    · exact nothing
    · have ends : (Event.connectionOpened p.client.peer target ::
          (p.report target .up ++ p.report target .down)) ++ [p.closing target] =
          (before ++ event :: init) ++ [last] := by
        rw [whole, Pump.whole, ending, List.concat_eq_append] at split
        simpa only [List.cons_append, List.append_assoc] using split
      have body := (List.append_inj' ends rfl).1
      refine (other ?_).elim
      rw [body]
      exact List.mem_append_right _ List.mem_cons_self
  · have mem : event ∈ p.story target := mem_of_split split
    rw [story] at mem
    exact (other ((List.cons_prefix_cons.mpr ⟨rfl, begun⟩).subset mem)).elim

theorem mem_story_closing (mem : event ∈ p.story target) (closing : isClosing event = true) :
    p.stage = .closed := by
  rcases p.story_cases target with ⟨closed, -⟩ | ⟨-, told, story, begun⟩
  · exact closed
  · rw [story] at mem
    rw [isClosing_of_mem ((List.cons_prefix_cons.mpr ⟨rfl, begun⟩).subset mem)] at closing
    cases closing

end Pump

namespace Relay

variable {r r' : Relay} {l : Listener} {cores : UInt64} {target : String} {workers number : Nat}

/-! ## The start -/

theorem isTraffic_report (p : Pump) (d : Direction) :
    ∀ event ∈ p.report target d, isTraffic event = true := by
  intro event mem
  obtain ⟨error, rfl⟩ := Pump.mem_report mem
  rfl

/-- What a move adds to the log is about clients. -/
theorem Move.log (m : Move r r') :
    ∃ more, r'.log = r.log ++ more ∧ ∀ record ∈ more, isTraffic record.event = true := by
  have nothing : ∃ more, r.log = r.log ++ more ∧ ∀ record ∈ more, isTraffic record.event = true :=
    ⟨[], (List.append_nil _).symm, fun _ mem => by cases mem⟩
  have told (number : Nat) (events : List Event)
      (other : ∀ event ∈ events, isTraffic event = true) :
      ∃ more, (r.tell number events).log = r.log ++ more ∧
        ∀ record ∈ more, isTraffic record.event = true :=
    ⟨_, rfl, List.forall_mem_map.mpr other⟩
  have one (event : Event) (other : isTraffic event = true) :
      ∀ event' ∈ [event], isTraffic event' = true := List.forall_mem_singleton.mpr other
  cases m with
  | accepted | handedOff | dialFailed | dialed | copied => exact nothing
  | acceptFailed => exact ⟨_, rfl, List.forall_mem_singleton.mpr rfl⟩
  | refused => exact told _ _ (one _ rfl)
  | opened => exact told _ _ (one _ rfl)
  | settled split settles =>
    cases settles with
    | ended | countedUp | countedDown | inactive | completed => exact nothing
    | reportedUp | reportedDown => exact told _ _ (isTraffic_report _ _)
    | closed => exact told _ _ (one _ rfl)

/-- The start is the first record, and no other record is a start. -/
def LogsStart (l : Listener) (r : Relay) : Prop :=
  ∃ rest, r.log = ⟨none, .relayStarted .tcp l.listen l.target⟩ :: rest ∧
    ∀ record ∈ rest, isStart record.event = false

theorem Reachable.logsStart (reached : Reachable (l.start cores) r) : LogsStart l r := by
  refine reached.keeps (fun _ m h => ?_) ?_
  · obtain ⟨rest, log, other⟩ := h
    obtain ⟨more, log', traffic⟩ := m.log
    have other' (record : Record) (mem : record ∈ more) : isStart record.event = false :=
      isStart_of_isTraffic (traffic record mem)
    refine ⟨rest ++ more, ?_, List.forall_mem_append.mpr ⟨other, other'⟩⟩
    rw [log', log, List.cons_append]
  · exact ⟨[], rfl, fun _ mem => by cases mem⟩

/-! ## The clients -/

/-- The clients whose dial has not ended: the one that waits, and one for each busy worker. -/
def pending (r : Relay) : List Nat := r.waiting ++ r.workers.map (·.client.number)

theorem Told.pending (h : Told target r) (mem : number ∈ r.pending) : story r.log number = [] := by
  refine h.tales (number, []) ?_
  unfold Relay.pending waiting at mem
  unfold Relay.tales
  rw [List.append_assoc]
  refine List.mem_append_left _ ?_
  simpa using mem

theorem Told.pump (h : Told target r) {p : Pump} (mem : p ∈ r.pumps) :
    story r.log p.client.number = p.story target := by
  refine h.tales (p.client.number, _) ?_
  rw [← h.target]
  unfold Relay.tales
  refine List.mem_append_left _ (List.mem_append_right _ ?_)
  exact List.mem_map.mpr ⟨p, mem, rfl⟩

theorem Told.refusal (h : Told target r) {refusal : Nat × Event} (mem : refusal ∈ refusals r.log) :
    story r.log refusal.1 = [refusal.2] := by
  refine h.tales (refusal.1, _) (List.mem_append_right _ ?_)
  exact List.mem_map.mpr ⟨refusal, mem, rfl⟩

theorem isRefusal_of_mem {log : List Record} {refusal : Nat × Event}
    (mem : refusal ∈ refusals log) : isRefusal refusal.2 = true := by
  obtain ⟨record, -, kept⟩ := List.mem_filterMap.mp mem
  split at kept
  · next refused =>
    obtain ⟨number, -, rfl⟩ := Option.map_eq_some_iff.mp kept
    exact refused
  · cases kept

/-- A client has no story yet, or its dial failed, or a pump tells its story. -/
theorem Told.story_cases (h : Told target r) (accounts : Accounts workers r) (number : Nat) :
    (r.nextClient ≤ number ∨ number ∈ r.pending) ∧ story r.log number = [] ∨
    (∃ event, isRefusal event = true ∧ story r.log number = [event]) ∨
    ∃ p ∈ r.pumps, p.client.number = number ∧ story r.log number = p.story target := by
  by_cases accepted : number < r.nextClient
  · have place := accounts.places.mem_iff.mpr (List.mem_range.mpr accepted)
    unfold taken at place
    rw [List.append_assoc, ← List.append_assoc] at place
    rcases List.mem_append.mp place with waits | place
    · exact .inl ⟨.inr waits, h.pending waits⟩
    · rcases List.mem_append.mp place with place | place
      · obtain ⟨p, mem, rfl⟩ := List.mem_map.mp place
        exact .inr (.inr ⟨p, mem, rfl, h.pump mem⟩)
      · obtain ⟨refusal, mem, rfl⟩ := List.mem_map.mp place
        exact .inr (.inl ⟨_, isRefusal_of_mem mem, h.refusal mem⟩)
  · have beyond := Nat.le_of_not_lt accepted
    exact .inl ⟨.inl beyond, h.unknown number beyond⟩

/-- What the log of a relay keeps to. -/
structure KeepsLog (l : Listener) (r : Relay) : Prop where
  started : LogsStart l r
  /-- Before its dial has ended nothing is logged about a client. -/
  silent : ∀ number ∈ r.pending, story r.log number = []
  /-- Of an accepted client whose dial has ended, it is logged once how. -/
  verdict : ∀ number < r.nextClient, number ∉ r.pending →
    (story r.log number).countP isVerdict = 1
  /-- A connection that was opened has a pump. -/
  opened : ∀ number, (∃ event ∈ story r.log number, isOpening event = true) →
    ∃ p ∈ r.pumps, p.client.number = number
  /-- While one of its copies goes on, nothing more is logged about a connection. -/
  quiet : ∀ p ∈ r.pumps, p.connection.isDone = false →
    story r.log p.client.number = [.connectionOpened p.client.peer l.target]
  /-- Then the failure of the copy to the remote is logged, if it failed, that of the copy to the
  client, if it failed, and that the connection is closed. -/
  order : ∀ p ∈ r.pumps, story r.log p.client.number <+: p.whole l.target
  /-- A pump that has finished has logged all of it. -/
  closed : ∀ p ∈ r.pumps, p.stage = .closed → story r.log p.client.number = p.whole l.target
  /-- After a connection is closed nothing is logged about it. -/
  last : ∀ number before event after, story r.log number = before ++ event :: after →
    isClosing event = true → after = []
  /-- When no connection is open, the counters have what the log tells of closed connections. -/
  totals : (∀ number, ¬ IsOpen r.log number) →
    ∀ d, (r.stats.bytes d).toNat = loggedBytes d r.log % UInt64.size

theorem Told.closed_of_not_isOpen (h : Told target r) {p : Pump} (mem : p ∈ r.pumps)
    (shut : ¬ IsOpen r.log p.client.number) : p.stage = .closed := by
  by_contra open'
  refine shut ⟨⟨.connectionOpened p.client.peer target, ?_, rfl⟩, fun event told => ?_⟩
  · rw [h.pump mem]
    exact List.mem_cons_self
  · rw [h.pump mem] at told
    by_contra closing
    exact open' (Pump.mem_story_closing told (Bool.not_eq_false _ ▸ closing))

theorem Reachable.keepsLog (reached : Reachable (l.start cores) r) : KeepsLog l r := by
  have told := reached.told
  have schedules := reached.schedules
  have known := told.story_cases reached.accounts
  refine ⟨reached.logsStart, fun number => told.pending, ?_, ?_, ?_, ?_, ?_, ?_, ?_⟩
  · intro number accepted ended
    rcases known number with ⟨unknown | waits, -⟩ | ⟨event, refused, story⟩ | ⟨p, -, -, story⟩
    · omega
    · exact absurd waits ended
    · rw [story, List.countP_singleton, (of_isRefusal refused).1]
      rfl
    · rw [story, Pump.countP_story]
  · rintro number ⟨event, mem, opening⟩
    rcases known number with ⟨-, story⟩ | ⟨event', refused, story⟩ | ⟨p, pump, same, -⟩
    · rw [story] at mem
      cases mem
    · rw [story, List.mem_singleton] at mem
      rw [mem, (of_isRefusal refused).2.1] at opening
      cases opening
    · exact ⟨p, pump, same⟩
  · intro p mem busy
    have relaying : p.stage = .relaying := by
      by_contra past
      rw [schedules.ended p mem past] at busy
      cases busy
    rw [told.pump mem]
    unfold Pump.story
    rw [relaying]
  · intro p mem
    rw [told.pump mem]
    exact p.story_prefix l.target
  · intro p mem closed
    rw [told.pump mem]
    unfold Pump.story
    rw [closed]
    rfl
  · intro number before event after split closing
    rcases known number with ⟨-, story⟩ | ⟨event', refused, story⟩ | ⟨p, -, -, story⟩
    · rw [story] at split
      exact absurd split.symm (List.append_ne_nil_of_right_ne_nil _ (List.cons_ne_nil _ _))
    · have told : event ∈ [event'] := by
        rw [← story, split]
        exact List.mem_append_right _ List.mem_cons_self
      rw [List.mem_singleton.mp told, (of_isRefusal refused).2.2] at closing
      cases closing
    · exact Pump.story_last (story ▸ split) closing
  · intro shut d
    have closed (p : Pump) (mem : p ∈ r.pumps) := told.closed_of_not_isOpen mem (shut _)
    rw [reached.totals.agree closed d]
    exact UInt64.toNat_ofNat'

/-- The dial for the first client fails; the connection of the second one fails after three bytes up
and is closed while the third client waits. -/
def failingActions : List Action :=
  let peer : Endpoint := .v4 ⟨10, 0, 0, 1⟩ 4001
  let ends : Ends := ⟨⟨[[1, 2, 3]], some (.os 104)⟩, {}, ⟨[], none⟩, {}⟩
  [.accept peer, .handOff, .dialed 0 (.error .connectionRefused), .accept peer, .announce 0,
    .handOff, .dialed 0 (.ok ends), .announce 0,
    .copy 0 .up .call, .copy 0 .down .call, .copy 0 .up .call, .copy 0 .down .call,
    .accept peer, .copy 0 .up .call, .copy 0 .up .call] ++ List.replicate 8 (.settle 0)

theorem keepsLog_failing : ∃ r, Reachable (smallListener.start 2) r ∧ KeepsLog smallListener r ∧
    r.pending = [2] ∧ (story r.log 0).length = 1 ∧ (story r.log 1).length = 3 ∧
    loggedBytes .up r.log = 3 ∧ r.stats.bytes .up = 3 := by
  obtain ⟨r, reached, shape⟩ := exists_reachable (smallListener.start 2) failingActions
    (fun r => r.pending == [2] && (story r.log 0).length == 1 && (story r.log 1).length == 3 &&
      loggedBytes .up r.log == 3 && r.stats.bytes .up == 3) (by decide +kernel)
  simp only [Bool.and_eq_true, beq_iff_eq] at shape
  obtain ⟨⟨⟨⟨pending, refused⟩, closed⟩, logged⟩, counted⟩ := shape
  exact ⟨r, reached, reached.keepsLog, pending, refused, closed, logged, counted⟩

end Relay

end SocketRelay.Tcp
