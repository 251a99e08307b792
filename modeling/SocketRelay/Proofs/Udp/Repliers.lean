import SocketRelay.Proofs.Udp.Table
import SocketRelay.Proofs.Udp.Tasks

/-!
# What a replier did with its payloads

A replier writes to the client what it read from the remote, one payload after
the other and each before it reads the next (`Replier.Tracked`). One that has
ended keeps what it read and what it wrote (`Session.Continues`).
-/

namespace SocketRelay.Udp

open Net

namespace Replier

variable {r r' : Replier} {bufferSize : UInt64} {idleTimeout : Duration} {input : ReplierInput}
  {effect : Effect}

/-- The payload that was read last, until it is written. -/
def inHand (r : Replier) : List Payload :=
  match r.phase with
  | .responding p => [p]
  | .waiting | .stopped | .failed _ => []

structure Tracked (r : Replier) : Prop where
  answered_isPrefix : r.answered <+: r.heard
  alive : r.isAlive = true → r.heard = r.answered ++ r.inHand

theorem tracked_start : Tracked {} := ⟨List.nil_prefix, fun _ => rfl⟩

/-- A replier reads, writes what it has read, ends, or goes on waiting. -/
theorem step_traffic (h : r.step bufferSize idleTimeout input = some (r', effect)) :
    (∃ p, input = .heard p ∧ r.phase = .waiting ∧ effect = .none ∧
      r' = { r with
        phase := .responding (Payload.truncate p bufferSize)
        heard := r.heard ++ [Payload.truncate p bufferSize] }) ∨
    (∃ p, r.phase = .responding p ∧ effect = .replied p ∧
      r' = { r with phase := .waiting, answered := r.answered ++ [p] }) ∨
    ((∀ p, input ≠ .heard p) ∧ (∀ p, effect ≠ .replied p) ∧
      (r' = r ∨ ∃ phase, r' = { r with phase } ∧ r'.isAlive = false)) := by
  cases input with
  | heard p =>
    simp only [step] at h
    split at h
    · next waiting => cases h; exact .inl ⟨p, rfl, waiting, rfl, rfl⟩
    · cases h
  | responded =>
    simp only [step] at h
    split at h
    · next p responding => cases h; exact .inr (.inl ⟨p, responding, rfl, rfl⟩)
    · cases h
  | readDeadline idle =>
    refine .inr (.inr ⟨fun _ eq => (by cases eq), ?_⟩)
    simp only [step] at h
    split at h
    · split at h
      · cases h; exact ⟨fun _ eq => (by cases eq), .inl rfl⟩
      · cases h; exact ⟨fun _ eq => (by cases eq), .inr ⟨_, rfl, rfl⟩⟩
    · cases h
  | readFailed | respondFailed | shutdown =>
    refine .inr (.inr ⟨fun _ eq => (by cases eq), ?_⟩)
    simp only [step] at h
    split at h
    · cases h; exact ⟨fun _ eq => (by cases eq), .inr ⟨_, rfl, rfl⟩⟩
    · cases h

theorem Tracked.step (h : r.Tracked)
    (step : r.step bufferSize idleTimeout input = some (r', effect)) : r'.Tracked := by
  have same := h.alive (isAlive_of_step step)
  obtain ⟨p, -, waiting, -, rfl⟩ | ⟨p, responding, -, rfl⟩ | ⟨-, -, rfl | ⟨phase, rfl, ended⟩⟩ :=
    step_traffic step
  · rw [inHand, waiting, List.append_nil] at same
    refine ⟨h.answered_isPrefix.trans (List.prefix_append ..), fun _ => ?_⟩
    show r.heard ++ _ = _
    rw [same]
    rfl
  · rw [inHand, responding] at same
    refine ⟨⟨[], by rw [List.append_nil]; exact same.symm⟩, fun _ => ?_⟩
    rw [inHand, List.append_nil]
    exact same
  · exact h
  · exact ⟨h.answered_isPrefix, fun alive => by rw [ended] at alive; cases alive⟩

theorem step_heard (h : r.step bufferSize idleTimeout input = some (r', effect))
    (other : ∀ p, input ≠ .heard p) : r'.heard = r.heard := by
  obtain ⟨p, heard, -⟩ | ⟨p, -, -, rfl⟩ | ⟨-, -, rfl | ⟨phase, rfl, -⟩⟩ := step_traffic h
  · exact absurd heard (other p)
  · rfl
  · rfl
  · rfl

/-- A replier that gives up has ended. -/
theorem ended_of_failed {reason : FailureReason} {cause : Option (SessionOp × IoError)}
    (h : r.step bufferSize idleTimeout input = some (r', .failed reason cause)) :
    r'.isAlive = false := by
  obtain ⟨-, none | ⟨p, replied⟩⟩ | ⟨reason, cause, -, failed, -⟩ := step_cases h
  · cases none
  · cases replied
  · rw [isAlive, failed]

end Replier

/-! ## Sessions -/

namespace Session

def delivery (s : Session) (p : Payload) : Delivery := ⟨s.client, s.id, p⟩

def heard (s : Session) : List Delivery := s.replier.heard.map s.delivery

def answered (s : Session) : List Delivery := s.replier.answered.map s.delivery

theorem of_mem_heard {s : Session} {d : Delivery} (h : d ∈ s.heard) :
    d.client = s.client ∧ d.id = s.id := by
  obtain ⟨p, -, rfl⟩ := List.mem_map.mp h
  exact ⟨rfl, rfl⟩

theorem of_mem_answered {s : Session} {d : Delivery} (h : d ∈ s.answered) :
    d.client = s.client ∧ d.id = s.id := by
  obtain ⟨p, -, rfl⟩ := List.mem_map.mp h
  exact ⟨rfl, rfl⟩

/-- What may become of a session: it stays with its client and its remote, and its replier reads
and writes more, unless it has ended. -/
structure Continues (s s' : Session) : Prop where
  id : s'.id = s.id
  client : s'.client = s.client
  remote : s'.remote = s.remote
  heard : s.replier.heard <+: s'.replier.heard
  answered : s.replier.answered <+: s'.replier.answered
  ended : s.replier.isAlive = false → s'.replier = s.replier

namespace Continues

theorem of_replier {s s' : Session} (id : s'.id = s.id) (client : s'.client = s.client)
    (remote : s'.remote = s.remote) (replier : s'.replier = s.replier) : Continues s s' where
  id := id
  client := client
  remote := remote
  heard := replier ▸ List.prefix_refl _
  answered := replier ▸ List.prefix_refl _
  ended := fun _ => replier

theorem refl (s : Session) : Continues s s := of_replier rfl rfl rfl rfl

theorem trans {s₁ s₂ s₃ : Session} (h : Continues s₁ s₂) (h' : Continues s₂ s₃) :
    Continues s₁ s₃ where
  id := h'.id.trans h.id
  client := h'.client.trans h.client
  remote := h'.remote.trans h.remote
  heard := h.heard.trans h'.heard
  answered := h.answered.trans h'.answered
  ended := fun ended => by
    have same := h.ended ended
    exact (h'.ended (by rw [same]; exact ended)).trans same

theorem taken (s : Session) (now : Instant) (p : Payload) : Continues s (s.taken now p) :=
  of_replier rfl rfl rfl rfl

theorem step {e : Engine} {now : Instant} {s s' : Session} {isOpen : Bool}
    {input : Engine.TaskInput} {effect : Effect}
    (h : e.stepSession now s isOpen input = some (s', effect)) : Continues s s' := by
  obtain ⟨i, f, -, rfl⟩ | ⟨i, r, moved, -, rfl⟩ := Engine.stepSession_cases h
  · exact of_replier rfl rfl rfl rfl
  · have ended : s.replier.isAlive = false → r = s.replier := fun ended => by
      rw [Replier.step_eq_none ended] at moved
      cases moved
    obtain ⟨p, -, -, -, rfl⟩ | ⟨p, -, -, rfl⟩ | ⟨-, -, rfl | ⟨phase, rfl, -⟩⟩ :=
      Replier.step_traffic moved
    · exact ⟨rfl, rfl, rfl, List.prefix_append .., List.prefix_refl _, ended⟩
    · exact ⟨rfl, rfl, rfl, List.prefix_refl _, List.prefix_append .., ended⟩
    · exact refl s
    · exact ⟨rfl, rfl, rfl, List.prefix_refl _, List.prefix_refl _, ended⟩

end Continues

end Session

end SocketRelay.Udp
