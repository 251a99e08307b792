import SocketRelay.Proofs.Net.EndpointText
import SocketRelay.Udp.Session

/-!
# What a forwarder did with its payloads

Everything that a forwarder ever took from the manager is written, in its hand or
in its queue, in this order (`Forwarder.Tracked`). While the forwarder is alive,
it writes what is in its hand and what is in its queue waits; if it failed, all of
that is lost; if it finished, there is nothing left.
-/

namespace SocketRelay.Udp

open Net

namespace Forwarder

variable {f f' : Forwarder} {isOpen : Bool} {input : ForwarderInput} {effect : Effect}

/-- The payload that left the queue last, until it is written. -/
def inHand (f : Forwarder) : List Payload :=
  match f.phase with
  | .writing p | .failed p => [p]
  | .receiving | .finished => []

def writing (f : Forwarder) : List Payload := if f.isAlive then f.inHand else []

/-- The payloads in the queue of a forwarder that can still take them. -/
def waiting (f : Forwarder) : List Payload := if f.isAlive then f.queue else []

/-- The payload whose write failed, and those that were in the queue then. -/
def lost (f : Forwarder) : List Payload :=
  match f.phase with
  | .failed p => p :: f.queue
  | _ => []

structure Tracked (f : Forwarder) : Prop where
  accounted : f.accepted = f.sent ++ (f.inHand ++ f.queue)
  drained : f.phase = .finished → f.queue = []

theorem tracked_start (capacity : Nat) : Tracked { capacity } where
  accounted := rfl
  drained _ := rfl

theorem Tracked.parts (h : f.Tracked) :
    f.accepted = f.sent ++ (f.writing ++ (f.waiting ++ f.lost)) := by
  rw [h.accounted]
  cases phase : f.phase with
  | receiving => simp [writing, waiting, lost, isAlive, inHand, phase]
  | writing p => simp [writing, waiting, lost, isAlive, inHand, phase]
  | finished => simp [writing, waiting, lost, isAlive, inHand, phase, h.drained phase]
  | failed p => simp [writing, waiting, lost, isAlive, inHand, phase]

theorem giveUp_eq_some {cause : IoError} (h : step.giveUp f cause = some (f', effect)) :
    ∃ p, f.phase = .writing p ∧ f' = { f with phase := .failed p } ∧
      effect = .failed .write (some (.forward, cause)) := by
  unfold step.giveUp at h
  split at h
  · next p phase => cases h; exact ⟨p, phase, rfl, rfl⟩
  · cases h

/-- The four ways in which a forwarder goes on. -/
theorem step_cases (h : f.step isOpen input = some (f', effect)) :
    (∃ p rest, f.phase = .receiving ∧ f.queue = p :: rest ∧
      f' = { f with queue := rest, phase := .writing p } ∧ effect = .none) ∨
    (∃ p, f.phase = .writing p ∧
      f' = { f with phase := .receiving, sent := f.sent ++ [p] } ∧ effect = .forwarded) ∨
    (∃ p cause, f.phase = .writing p ∧ f' = { f with phase := .failed p } ∧
      effect = .failed .write (some (.forward, cause))) ∨
    (f.phase = .receiving ∧ f.queue = [] ∧ isOpen = false ∧
      f' = { f with phase := .finished } ∧ effect = .none) := by
  cases input with
  | take =>
    simp only [step] at h
    split at h
    · next p rest phase queue => cases h; exact .inl ⟨p, rest, phase, queue, rfl, rfl⟩
    · cases h
  | written =>
    simp only [step] at h
    split at h
    · next p phase => cases h; exact .inr (.inl ⟨p, phase, rfl, rfl⟩)
    · cases h
  | writeFailed cause =>
    obtain ⟨p, failed⟩ := giveUp_eq_some h
    exact .inr (.inr (.inl ⟨p, cause, failed⟩))
  | writeDeadline =>
    obtain ⟨p, failed⟩ := giveUp_eq_some h
    exact .inr (.inr (.inl ⟨p, .writeDeadline, failed⟩))
  | closed =>
    simp only [step] at h
    split at h
    · next phase queue =>
      split at h
      · cases h
      · next closed =>
        cases h
        exact .inr (.inr (.inr ⟨phase, queue, by simpa using closed, rfl, rfl⟩))
    · cases h

theorem Tracked.step (h : f.Tracked) (step : f.step isOpen input = some (f', effect)) :
    f'.Tracked := by
  have accounted := h.accounted
  obtain ⟨p, rest, phase, queue, rfl, -⟩ | ⟨p, phase, rfl, -⟩ | ⟨p, cause, phase, rfl, -⟩ |
    ⟨phase, queue, -, rfl, -⟩ := step_cases step
  · rw [inHand, phase, queue] at accounted
    exact ⟨accounted, fun done => by cases done⟩
  · rw [inHand, phase] at accounted
    refine ⟨?_, fun done => by cases done⟩
    simpa [inHand] using accounted
  · rw [inHand, phase] at accounted
    exact ⟨accounted, fun done => by cases done⟩
  · rw [inHand, phase] at accounted
    exact ⟨accounted, fun _ => queue⟩

/-- What one step changes of what was accepted and sent. -/
theorem step_sent (h : f.step isOpen input = some (f', effect)) :
    f'.accepted = f.accepted ∧
      f'.sent.length = f.sent.length + if effect = .forwarded then 1 else 0 := by
  obtain ⟨p, rest, phase, queue, rfl, rfl⟩ | ⟨p, phase, rfl, rfl⟩ | ⟨p, cause, phase, rfl, rfl⟩ |
    ⟨phase, queue, -, rfl, rfl⟩ := step_cases h
  · exact ⟨rfl, rfl⟩
  · exact ⟨rfl, by simp⟩
  · exact ⟨rfl, rfl⟩
  · exact ⟨rfl, rfl⟩

def hasFailed (f : Forwarder) : Bool :=
  match f.phase with
  | .failed _ => true
  | _ => false

/-- A forwarder fails with one report of a failed write, and does not fail otherwise. -/
theorem step_failed (h : f.step isOpen input = some (f', effect)) :
    (f'.hasFailed = f.hasFailed ∧ ∀ reason cause, effect ≠ .failed reason cause) ∨
    (f.hasFailed = false ∧ f'.hasFailed = true ∧ ∃ cause, effect = .failed .write cause) := by
  obtain ⟨p, rest, phase, queue, rfl, rfl⟩ | ⟨p, phase, rfl, rfl⟩ | ⟨p, cause, phase, rfl, rfl⟩ |
    ⟨phase, queue, -, rfl, rfl⟩ := step_cases h
  · exact .inl ⟨by simp [hasFailed, phase], fun _ _ failed => by cases failed⟩
  · exact .inl ⟨by simp [hasFailed, phase], fun _ _ failed => by cases failed⟩
  · exact .inr ⟨by simp [hasFailed, phase], rfl, _, rfl⟩
  · exact .inl ⟨by simp [hasFailed, phase], fun _ _ failed => by cases failed⟩

/-- A forwarder that has ended does nothing any more. -/
theorem step_eq_none (ended : f.isAlive = false) (isOpen : Bool) (input : ForwarderInput) :
    f.step isOpen input = none := by
  cases h : f.step isOpen input with
  | none => rfl
  | some p =>
    obtain ⟨p, rest, phase, -⟩ | ⟨p, phase, -⟩ | ⟨p, cause, phase, -⟩ | ⟨phase, -⟩ := step_cases h
    all_goals
      rw [isAlive, phase] at ended
      cases ended

/-- How a forwarder ended: with everything written, or at the payload that it could not write. -/
theorem Tracked.ended (h : f.Tracked) (ended : f.isAlive = false) :
    (f.phase = .finished ∧ f.sent = f.accepted) ∨
    (∃ p, f.phase = .failed p ∧ f.accepted = f.sent ++ p :: f.queue) := by
  have accounted := h.accounted
  cases phase : f.phase with
  | receiving => rw [isAlive, phase] at ended; cases ended
  | writing p => rw [isAlive, phase] at ended; cases ended
  | finished =>
    rw [inHand, phase, h.drained phase] at accounted
    exact .inl ⟨rfl, by simpa using accounted.symm⟩
  | failed p =>
    rw [inHand, phase] at accounted
    exact .inr ⟨p, rfl, accounted⟩

theorem offer_eq_some {p : Payload} (h : f.offer p = some f') :
    f.isAlive = true ∧ f' = { f with queue := f.queue ++ [p], accepted := f.accepted ++ [p] } := by
  unfold offer at h
  split at h
  · next room =>
    cases h
    exact ⟨(Bool.and_eq_true_iff.mp room).1, rfl⟩
  · cases h

theorem Tracked.offer (h : f.Tracked) {p : Payload} (room : f.offer p = some f') :
    f'.Tracked := by
  obtain ⟨alive, rfl⟩ := offer_eq_some room
  refine ⟨?_, fun done => ?_⟩
  · show f.accepted ++ [p] = f.sent ++ (f.inHand ++ (f.queue ++ [p]))
    rw [h.accounted]
    simp only [List.append_assoc]
  · rw [isAlive, show f.phase = .finished from done] at alive
    cases alive

end Forwarder

/-! ## Sessions -/

/-- The datagram without what the text of its source leaves out. -/
def Datagram.withoutFlow (d : Datagram) : Datagram := { d with source := d.source.withoutFlow }

namespace Session

def datagram (s : Session) (p : Payload) : Datagram := ⟨s.client.withoutFlow, p⟩

def accepted (s : Session) : List Datagram := s.forwarder.accepted.map s.datagram

def written (s : Session) : List Datagram := s.forwarder.sent.map s.datagram

def writing (s : Session) : List Datagram := s.forwarder.writing.map s.datagram

def waiting (s : Session) : List Datagram := s.forwarder.waiting.map s.datagram

def lost (s : Session) : List Datagram := s.forwarder.lost.map s.datagram

theorem accepted_eq {s : Session} (h : s.forwarder.Tracked) :
    s.accepted = s.written ++ (s.writing ++ (s.waiting ++ s.lost)) := by
  rw [accepted, h.parts, written, writing, waiting, lost]
  simp only [List.map_append]

end Session

end SocketRelay.Udp
