import SocketRelay.Proofs.Tcp.Directions
import SocketRelay.Tcp.Requests

/-!
# Copies that are answered

A relay that runs learns what its streams give one answer after the other. Taken
together, the answers to a copy are streams (`sourceOf`, `sinkOf`), and a copy
between these is where the answered one is (`Copy.Answered.runFor`). So it makes no
difference to a relay whether its streams are there beforehand
(`Relay.Driven.copies`), and what holds of all copies between streams holds of the
copies of a relay that runs.
-/

namespace SocketRelay.Tcp

open Net

/-- The answer is one that a socket gives to this request. -/
inductive Answer.IsTo : Request → Answer → Prop where
  | bytes {size : Nat} {bs : Bytes} (some : bs ≠ []) (fit : bs.length ≤ size) :
    IsTo (.read size) (.read (.bytes bs))
  | ended (size : Nat) : IsTo (.read size) (.read .ended)
  | readFailed (size : Nat) (cause : IoError) : IsTo (.read size) (.read (.failed cause))
  | write (bs : Bytes) (answer : WriteAnswer) : IsTo (.write bs) (.write answer)
  | shutdown : IsTo .shutdown .shutdown

/-- The source that gives what these answers give. -/
def sourceOf : List Answer → Source
  | [] => { pieces := [] }
  | .read (.bytes bs) :: rest => { sourceOf rest with pieces := bs :: (sourceOf rest).pieces }
  | .read .ended :: _ => { pieces := [] }
  | .read (.failed cause) :: _ => { pieces := [], failure := some cause }
  | .write _ :: rest | .shutdown :: rest => sourceOf rest

def writesOf (answers : List Answer) : List WriteAnswer :=
  answers.filterMap fun
    | .write answer => some answer
    | _ => none

def sinkOf (answers : List Answer) : Sink := { answers := writesOf answers }

theorem Source.read_cons {bs : Bytes} {size : Nat} (some : bs ≠ []) (fit : bs.length ≤ size)
    (rest : List Bytes) (failure : Option IoError) :
    (Source.mk (bs :: rest) failure).read size = (.bytes bs, ⟨rest, failure⟩) := by
  have filled : bs.isEmpty = false := List.isEmpty_eq_false_iff.mpr some
  unfold read
  rw [List.dropWhile_cons_of_neg (by rw [filled]; exact Bool.false_ne_true)]
  simp only [List.take_of_length_le fit, List.drop_of_length_le fit, if_true]

/-- Only the next answer of a sink matters to a write. -/
theorem Sink.write_cons {s : Sink} {answer : WriteAnswer} {rest : List WriteAnswer}
    (answers : s.answers = answer :: rest) (bs : Bytes) (taken : Bytes) (shutdowns : Nat) :
    (s.write bs).1 = ((Sink.mk [answer] taken shutdowns).write bs).1 ∧
      (s.write bs).2.answers = rest := by
  unfold write
  rw [answers]
  cases answer with
  | failed cause => exact ⟨rfl, rfl⟩
  | accept limit =>
    by_cases nothing : min limit bs.length = 0
    · simp only [nothing, if_true, and_self]
    · simp only [nothing, if_false, and_self]

/-! ## One copy -/

/-- A transfer between streams that are about to give these answers to this copy. Once its loop is
over, the source does not matter any more. -/
structure Transfer.Tells (answers : List Answer) (c : Copy) (u : Transfer) : Prop where
  copy : u.copy = c
  writes : u.sink.answers = writesOf answers
  source : c.phase = .reading ∨ (∃ left size, c.phase = .writing left size) →
    u.source = sourceOf answers

namespace Copy

/-- A copy that started as `first` has got these answers, each to the request it made. -/
inductive Answered (first : Copy) : List Answer → Copy → Prop where
  | start : Answered first [] first
  | next {answers : List Answer} {a : Answer} {request : Request} {t t' : Transfer}
    (before : Answered first answers t.copy) (asked : t.copy.request? = some request)
    (isTo : a.IsTo request) (step : (t.expecting a).step = some t') :
    Answered first (answers ++ [a]) t'.copy

end Copy

namespace Transfer

variable {t t' u : Transfer} {a : Answer} {answers : List Answer} {request : Request}

theorem copy_expecting (t : Transfer) (a : Answer) : (t.expecting a).copy = t.copy := by
  cases a with
  | read result => cases result <;> rfl
  | write | shutdown => rfl

theorem step_reading (phase : t.copy.phase = .reading) :
    t.step = some { t with
      source := (t.source.read t.copy.bufferSize).2
      copy := t.copy.onRead (t.source.read t.copy.bufferSize).1 } := by
  unfold step
  rw [phase]

theorem step_writing {left : Bytes} {size : Nat} (phase : t.copy.phase = .writing left size) :
    t.step = some { t with
      sink := (t.sink.write left).2
      copy := t.copy.onWrite size (t.sink.write left).1 } := by
  unfold step
  rw [phase]

theorem step_ending {failure : Option IoError} (phase : t.copy.phase = .ending failure) :
    t.step = some { t with sink := t.sink.shutdown, copy := t.copy.onShutdown failure } := by
  unfold step
  rw [phase]

/-- Streams that tell the answer beforehand lead a copy to where the answer leads it. -/
theorem Tells.step (h : Tells (a :: answers) t.copy u) (asked : t.copy.request? = some request)
    (isTo : a.IsTo request) (step : (t.expecting a).step = some t') :
    ∃ u', u.step = some u' ∧ Tells answers t'.copy u' := by
  obtain ⟨same, writes, source⟩ := h
  have copy := t.copy_expecting a
  unfold Copy.request? at asked
  split at asked
  · next reading =>
    cases asked
    rw [step_reading (copy ▸ reading)] at step
    cases step
    refine ⟨_, step_reading (same ▸ reading), ?_⟩
    rw [same, source (.inl reading)]
    cases isTo with
    | bytes some fit =>
      have now := Source.read_cons some fit [] none
      have later := Source.read_cons some fit (sourceOf answers).pieces (sourceOf answers).failure
      refine ⟨?_, writes, fun _ => ?_⟩
      · simp only [sourceOf, expecting, now, later]
      · simp only [sourceOf, later]
    | ended | readFailed =>
      refine ⟨rfl, writes, ?_⟩
      rintro (loops | ⟨left, size, loops⟩) <;> cases loops
  · next left size writing =>
    cases asked
    rw [step_writing (copy ▸ writing)] at step
    cases step
    refine ⟨_, step_writing (same ▸ writing), ?_⟩
    cases isTo with
    | write _ answer =>
      obtain ⟨result, rest⟩ := Sink.write_cons writes left t.sink.taken t.sink.shutdowns
      refine ⟨?_, rest, fun _ => source (.inr ⟨left, size, writing⟩)⟩
      rw [same, result]
      rfl
  · next failure ending =>
    cases asked
    rw [step_ending (copy ▸ ending)] at step
    cases step
    refine ⟨_, step_ending (same ▸ ending), ?_⟩
    cases isTo with
    | shutdown =>
      refine ⟨by rw [same]; rfl, writes, ?_⟩
      rintro (loops | ⟨left, size, loops⟩) <;> cases loops
  · cases asked

theorem runFor_succ (n : Nat) (t : Transfer) :
    runFor (n + 1) t = (runFor n t).step.getD (runFor n t) := by
  rw [runFor_eq, runFor_eq, List.replicate_succ', runInputs_append]
  rfl

end Transfer

/-- A copy between streams that give all answers is where the answered copy is. -/
theorem Copy.Answered.tells {first c : Copy} {answers : List Answer}
    (h : Answered first answers c) (later : List Answer) :
    Transfer.Tells later c (Transfer.runFor answers.length
      ⟨first, sourceOf (answers ++ later), sinkOf (answers ++ later)⟩) := by
  induction h generalizing later with
  | start => exact ⟨rfl, rfl, fun _ => rfl⟩
  | @next answers a request t t' before asked isTo step ih =>
    have told := ih (a :: later)
    rw [List.append_cons] at told
    obtain ⟨u, moved, tells⟩ := told.step asked isTo step
    rw [List.length_append, List.length_singleton, Transfer.runFor_succ, moved]
    exact tells

theorem Copy.Answered.runFor {size : UInt64} {c : Copy} {answers : List Answer}
    (h : Answered (.start size) answers c) :
    ((Transfer.start size (sourceOf answers) (sinkOf answers)).runFor answers.length).copy = c := by
  have tells := h.tells []
  rw [List.append_nil] at tells
  exact tells.copy

/-! ## The copies of a relay that runs -/

def Connection.Answered (bufferSize : UInt64) (c : Connection) : Prop :=
  ∀ d, ∃ answers, Copy.Answered (.start bufferSize) answers (c.transfer d).copy

theorem Connection.answered_start (bufferSize : UInt64) (e : Ends) :
    (start bufferSize e).Answered bufferSize := by
  intro d
  cases d <;> exact ⟨[], .start⟩

namespace Relay

variable {start r r' : Relay} {bufferSize : UInt64}

/-- The states that a relay is brought to by actions other than those of its copies, by answers to
its requests and by forgetting. -/
inductive Driven (start : Relay) : Relay → Prop where
  | start : Driven start start
  | act {r r' : Relay} {a : Action} (before : Driven start r)
    (other : ∀ i d input, a ≠ .copy i d input) (h : r.act a = some r') : Driven start r'
  | answer {r r' : Relay} {number : Nat} {d : Direction} {request : Request} {a : Answer}
    (before : Driven start r) (asked : r.request? number d = some request) (isTo : a.IsTo request)
    (h : r.answer number d a = some r') : Driven start r'
  | forget {r : Relay} (before : Driven start r) : Driven start r.forget

structure Answered (bufferSize : UInt64) (r : Relay) : Prop where
  settings : r.settings.bufferSize = bufferSize
  workers : ∀ w ∈ r.workers, ∀ c, w.stage = .connected c → c.Answered bufferSize
  pumps : ∀ p ∈ r.pumps, p.connection.Answered bufferSize

/-- Only copying changes a connection. -/
theorem Answered.act (h : Answered bufferSize r) {a : Action}
    (other : ∀ i d input, a ≠ .copy i d input) (acted : r.act a = some r') :
    Answered bufferSize r' := by
  obtain ⟨settings, workers, pumps⟩ := h
  cases a with
  | accept | acceptFailed =>
    simp only [Relay.act] at acted
    split at acted <;> cases acted
    exact ⟨settings, workers, pumps⟩
  | handOff =>
    simp only [Relay.act] at acted
    split at acted
    · cases acted
    · split at acted <;> cases acted
      refine ⟨settings, List.forall_mem_append.mpr ⟨workers, fun w mem c connected => ?_⟩, pumps⟩
      rw [List.mem_singleton.mp mem] at connected
      cases connected
  | dialed i result =>
    simp only [Relay.act] at acted
    split at acted
    · cases acted
    · split at acted <;> cases acted
      cases result with
      | error cause =>
        refine ⟨settings, fun w mem c connected => ?_, pumps⟩
        rcases List.mem_or_eq_of_mem_set mem with old | rfl
        · exact workers w old c connected
        · cases connected
      | ok ends =>
        refine ⟨settings, fun w mem c connected => ?_, pumps⟩
        rcases List.mem_or_eq_of_mem_set mem with old | rfl
        · exact workers w old c connected
        · cases connected
          rw [settings]
          exact Connection.answered_start bufferSize ends
  | announce i =>
    simp only [Relay.act] at acted
    split at acted
    · cases acted
    · next w found =>
      have rest : ∀ w ∈ r.workers.eraseIdx i, ∀ c, w.stage = .connected c → c.Answered bufferSize :=
        fun w mem => workers w (List.mem_of_mem_eraseIdx mem)
      split at acted
      · cases acted
      · cases acted
        exact ⟨settings, rest, pumps⟩
      · next connection connected =>
        cases acted
        refine ⟨settings, rest, List.forall_mem_append.mpr ⟨pumps, fun p mem => ?_⟩⟩
        rw [List.mem_singleton.mp mem]
        exact workers w (List.mem_of_getElem? found) connection connected
  | copy i d input => exact absurd rfl (other i d input)
  | settle i =>
    simp only [Relay.act] at acted
    split at acted
    · cases acted
    · next p found =>
      obtain ⟨⟨stage, r₁⟩, settled, rfl⟩ := Option.map_eq_some_iff.mp acted
      rw [(settlePump_settles settled).eq]
      refine ⟨settings, workers, fun q mem => ?_⟩
      rcases List.mem_or_eq_of_mem_set mem with old | rfl
      · exact pumps q old
      · exact pumps p (List.mem_of_getElem? found)

/-- An answer moves the copy that asked for it. -/
theorem Answered.answer (h : Answered bufferSize r) {number : Nat} {d : Direction}
    {request : Request} {a : Answer} (asked : r.request? number d = some request)
    (isTo : a.IsTo request) (answered : r.answer number d a = some r') :
    Answered bufferSize r' := by
  obtain ⟨settings, workers, pumps⟩ := h
  obtain ⟨p, found, asked⟩ := Option.bind_eq_some_iff.mp asked
  obtain ⟨q, same, answered⟩ := Option.bind_eq_some_iff.mp answered
  obtain rfl : p = q := Option.some.inj (found.symm.trans same)
  obtain ⟨lt, -⟩ := List.getElem?_eq_some_iff.mp found
  simp only [Relay.act, List.getElem?_set_self lt] at answered
  obtain ⟨connection, step, rfl⟩ := Option.map_eq_some_iff.mp answered
  refine ⟨settings, workers, fun q mem => ?_⟩
  rw [List.set_set] at mem
  rcases List.mem_or_eq_of_mem_set mem with old | rfl
  · exact pumps q old
  · intro d'
    obtain ⟨answers, before⟩ := pumps p (List.mem_of_getElem? found) d'
    obtain ⟨t, moved, rfl⟩ := Option.map_eq_some_iff.mp step
    rw [Connection.transfer_setTransfer, if_pos rfl] at moved
    rw [Connection.transfer_setTransfer]
    by_cases own : d = d'
    · subst own
      rw [if_pos rfl]
      exact ⟨answers ++ [a], before.next asked isTo moved⟩
    · rw [if_neg own, Connection.transfer_setTransfer, if_neg own]
      exact ⟨answers, before⟩

theorem Answered.forget (h : Answered bufferSize r) : Answered bufferSize r.forget := by
  obtain ⟨settings, workers, pumps⟩ := h
  refine ⟨settings, workers, fun p mem d => ?_⟩
  obtain ⟨q, kept, rfl⟩ := List.mem_map.mp mem
  obtain ⟨answers, answered⟩ := pumps q (List.mem_of_mem_filter kept) d
  cases d <;> exact ⟨answers, answered⟩

theorem Driven.answered {l : Listener} {cores : UInt64} (driven : Driven (l.start cores) r) :
    Answered l.settings.bufferSize r := by
  induction driven with
  | start =>
    exact ⟨rfl, fun w mem => absurd mem List.not_mem_nil, fun p mem => absurd mem List.not_mem_nil⟩
  | act before other h ih => exact ih.act other h
  | answer before asked isTo h ih => exact ih.answer asked isTo h
  | forget before ih => exact ih.forget

/-- In a relay that runs, every copy is where a copy is whose streams were there beforehand. -/
theorem Driven.copies {l : Listener} {cores : UInt64} (driven : Driven (l.start cores) r)
    {p : Pump} (mem : p ∈ r.pumps) (d : Direction) :
    ∃ source answers n, (p.connection.transfer d).copy =
      ((Transfer.start l.settings.bufferSize source { answers }).runFor n).copy := by
  obtain ⟨answers, answered⟩ := driven.answered.pumps p mem d
  exact ⟨sourceOf answers, writesOf answers, answers.length, answered.runFor.symm⟩

end Relay

end SocketRelay.Tcp
