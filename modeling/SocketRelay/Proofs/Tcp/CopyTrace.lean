import SocketRelay.Proofs.Tcp.Transfers

/-!
# The calls of a copy

A transfer is told as the calls that it makes and what they give (`Transfer.calls`).
What the sink took is at all times the beginning of what was read, and that is the
beginning of what the source has. The calls are reads and writes that go on, then
one that ends the copy, then the shutdown of the sink, and nothing more. Main
statement: `Transfer.start_relaysInOrder`.

`Transfer.Traced` is the invariant that goes with the calls made so far; in each
phase it says what of the bytes that were read the sink does not have yet, and
what the counter does not count yet.
-/

namespace SocketRelay.Tcp

open Net

/-- A call of a copy, with what it gave. -/
inductive Call where
  | read (result : ReadResult)
  /-- What is left of the bytes that were to be written. -/
  | write (result : Except IoError Bytes)
  | shutdown

namespace Call

/-- The copy reads and writes on after the call. -/
def goesOn : Call → Bool
  | .read (.bytes _) | .write (.ok _) => true
  | _ => false

def produced : Call → Bytes
  | .read (.bytes bs) => bs
  | _ => []

/-- The call ends the copy, with this error if there is one. -/
inductive Ends : Call → Option IoError → Prop where
  | sourceEnded : Ends (.read .ended) none
  | readFailed (cause : IoError) : Ends (.read (.failed cause)) (some cause)
  | writeFailed (cause : IoError) : Ends (.write (.error cause)) (some cause)

end Call

def produced (calls : List Call) : Bytes := calls.flatMap Call.produced

theorem produced_append (before after : List Call) :
    produced (before ++ after) = produced before ++ produced after := List.flatMap_append

theorem produced_concat (before : List Call) (c : Call) :
    produced (before ++ [c]) = produced before ++ c.produced := by
  rw [produced_append, produced, produced, List.flatMap_singleton]

namespace Transfer

variable {t t' : Transfer} {source : Source} {before : List Call} {c : Call}

/-- The next call and what it will give. -/
def call? (t : Transfer) : Option Call :=
  match t.copy.phase with
  | .reading => some (.read (t.source.read t.copy.bufferSize).1)
  | .writing left _ => some (.write (t.sink.write left).1)
  | .ending _ => some .shutdown
  | .done _ => none

def calls : Nat → Transfer → List Call
  | 0, _ => []
  | n + 1, t =>
    match t.step with
    | some t' => t.call?.toList ++ calls n t'
    | none => []

/-- A call reads into the buffer, writes what is left of it, or shuts the sink down. -/
theorem step_keeps {P : List Call → Transfer → Prop}
    (reads : t.copy.phase = .reading →
      P (before ++ [.read (t.source.read t.copy.bufferSize).1])
        { t with
          source := (t.source.read t.copy.bufferSize).2
          copy := t.copy.onRead (t.source.read t.copy.bufferSize).1 })
    (writes : ∀ left size, t.copy.phase = .writing left size →
      P (before ++ [.write (t.sink.write left).1])
        { t with
          sink := (t.sink.write left).2
          copy := t.copy.onWrite size (t.sink.write left).1 })
    (shutsDown : ∀ failure, t.copy.phase = .ending failure →
      P (before ++ [.shutdown])
        { t with sink := t.sink.shutdown, copy := t.copy.onShutdown failure })
    (step : t.step = some t') : P (before ++ t.call?.toList) t' := by
  cases phase : t.copy.phase with
  | reading =>
    simp only [Transfer.step, phase] at step
    cases step
    simp only [call?, phase, Option.toList_some]
    exact reads phase
  | writing left size =>
    simp only [Transfer.step, phase] at step
    cases step
    simp only [call?, phase, Option.toList_some]
    exact writes left size phase
  | ending failure =>
    simp only [Transfer.step, phase] at step
    cases step
    simp only [call?, phase, Option.toList_some]
    exact shutsDown failure phase
  | done failure =>
    simp only [Transfer.step, phase] at step
    cases step

/-- What every call keeps holds after any number of calls. -/
theorem runFor_keeps {P : List Call → Transfer → Prop}
    (call : ∀ {before t t'}, P before t → t.step = some t' → P (before ++ t.call?.toList) t')
    (h : P before t) (n : Nat) : P (before ++ calls n t) (runFor n t) := by
  induction n generalizing before t with
  | zero => exact (List.append_nil before).symm ▸ h
  | succ n ih =>
    rw [calls, Transfer.runFor]
    cases step : t.step with
    | none => exact (List.append_nil before).symm ▸ h
    | some t' =>
      have := ih (call h step)
      rwa [List.append_assoc] at this

/-! ## What holds between two calls -/

/-- The loop of a copy is over: with what call, and what the sink and the counter have then. -/
structure Over (source : Source) (loop : List Call) (last : Call) (failure : Option IoError)
    (t : Transfer) : Prop where
  goOn : ∀ c ∈ loop, c.goesOn = true
  ends : last.Ends failure
  taken_isPrefix : t.sink.taken <+: produced loop
  /-- If the source ended, the sink has all of it, all of it is counted and there is no error. -/
  ended : last = .read .ended → t.sink.taken = source.all ∧
    t.copy.bytes = UInt64.ofNat source.all.length ∧ failure = none
  /-- If a read failed, the sink has all that was read before. -/
  failed : ∀ cause, last = .read (.failed cause) →
    t.sink.taken = produced loop ∧ failure = some cause

/-- What the calls made so far mean in each phase. -/
def InPhase (source : Source) (before : List Call) (t : Transfer) : CopyPhase → Prop
  | .reading => (∀ c ∈ before, c.goesOn = true) ∧ t.sink.taken = produced before ∧
    t.copy.bytes = UInt64.ofNat (produced before).length
  | .writing left size => (∀ c ∈ before, c.goesOn = true) ∧
    t.sink.taken ++ left = produced before ∧
    t.copy.bytes + size.toUInt64 = UInt64.ofNat (produced before).length
  | .ending failure => ∃ loop last, before = loop ++ [last] ∧ Over source loop last failure t
  | .done failure => ∃ loop last, before = loop ++ [last, .shutdown] ∧
    Over source loop last failure t

/-- After these calls of a copy of `source`. -/
structure Traced (source : Source) (before : List Call) (t : Transfer) : Prop where
  read : produced before ++ t.source.all = source.all
  phase : InPhase source before t t.copy.phase

namespace Traced

theorem start (bufferSize : UInt64) (source : Source) (answers : List WriteAnswer) :
    Traced source [] (start bufferSize source { answers }) :=
  ⟨rfl, fun _ mem => absurd mem List.not_mem_nil, rfl, rfl⟩

theorem taken_isPrefix (h : Traced source before t) : t.sink.taken <+: produced before := by
  have phase := h.phase
  unfold InPhase at phase
  split at phase
  · exact phase.2.1 ▸ List.prefix_refl _
  · exact phase.2.1 ▸ List.prefix_append _ _
  · obtain ⟨loop, last, rfl, account⟩ := phase
    exact account.taken_isPrefix.trans (produced_append .. ▸ List.prefix_append _ _)
  · obtain ⟨loop, last, rfl, account⟩ := phase
    exact account.taken_isPrefix.trans (produced_append .. ▸ List.prefix_append _ _)

/-- A read gives the next bytes, or ends the loop. -/
theorem reads (h : Traced source before t) (phase : t.copy.phase = .reading) :
    Traced source (before ++ [.read (t.source.read t.copy.bufferSize).1])
      { t with
        source := (t.source.read t.copy.bufferSize).2
        copy := t.copy.onRead (t.source.read t.copy.bufferSize).1 } := by
  have now := h.phase
  rw [phase] at now
  obtain ⟨goOn, taken, bytes⟩ := now
  have all := h.read
  obtain ⟨result, rest, read⟩ : ∃ result rest,
    t.source.read t.copy.bufferSize = (result, rest) := ⟨_, _, rfl⟩
  rw [read]
  -- without more to read the loop is over, whether the source ended or failed
  have drained (other : ∀ bs, result ≠ .bytes bs) : produced before = source.all ∧
      produced (before ++ [.read result]) ++ rest.all = source.all := by
    have pieces := Source.read_pieces read other
    have nothing : (Call.read result).produced = [] := by
      cases result with
      | bytes bs => exact absurd rfl (other bs)
      | ended | failed => rfl
    rw [Source.read_other read other, List.append_nil] at all
    refine ⟨all, ?_⟩
    rw [produced_concat, nothing, List.append_nil, Source.all, pieces, List.flatten_nil,
      List.append_nil, all]
  cases result with
  | bytes bs =>
    obtain ⟨split, -⟩ := Source.read_bytes read
    refine ⟨?_, ?_, ?_, ?_⟩
    · rw [produced_concat, List.append_assoc, ← all, split]
      rfl
    · exact List.forall_mem_append.mpr ⟨goOn, List.forall_mem_singleton.mpr rfl⟩
    · rw [produced_concat, ← taken]
      rfl
    · rw [produced_concat, List.length_append, UInt64.ofNat_add, ← bytes]
      rfl
  | ended =>
    obtain ⟨whole, left⟩ := drained fun _ same => by cases same
    refine ⟨left, before, _, rfl, goOn, .sourceEnded, taken ▸ List.prefix_refl _, fun _ => ?_, ?_⟩
    · exact ⟨taken.trans whole, whole ▸ bytes, rfl⟩
    · intro cause same
      cases same
  | failed cause =>
    obtain ⟨whole, left⟩ := drained fun _ same => by cases same
    refine ⟨left, before, _, rfl, goOn, .readFailed cause, taken ▸ List.prefix_refl _, ?_, ?_⟩
    · intro same
      cases same
    · intro cause same
      cases same
      exact ⟨taken, rfl⟩

/-- A write takes more of the bytes that were read, or ends the loop. -/
theorem writes (h : Traced source before t) {left : Bytes} {size : Nat}
    (phase : t.copy.phase = .writing left size) :
    Traced source (before ++ [.write (t.sink.write left).1])
      { t with
        sink := (t.sink.write left).2
        copy := t.copy.onWrite size (t.sink.write left).1 } := by
  have now := h.phase
  rw [phase] at now
  obtain ⟨goOn, taken, bytes⟩ := now
  obtain ⟨result, sink, wrote⟩ : ∃ result sink, t.sink.write left = (result, sink) := ⟨_, _, rfl⟩
  rw [wrote]
  have nothing : produced (before ++ [.write result]) = produced before := by
    rw [produced_concat]
    exact List.append_nil _
  refine ⟨nothing.symm ▸ h.read, ?_⟩
  cases result with
  | error cause =>
    refine ⟨before, _, rfl, goOn, .writeFailed cause, ?_, ?_, ?_⟩
    · rw [Sink.write_error wrote, ← taken]
      exact List.prefix_append _ _
    · intro same
      cases same
    · intro _ same
      cases same
  | ok rest =>
    obtain ⟨part, split, -, more⟩ := Sink.write_ok wrote
    have on : ∀ c ∈ before ++ [.write (.ok rest)], c.goesOn = true :=
      List.forall_mem_append.mpr ⟨goOn, List.forall_mem_singleton.mpr rfl⟩
    have shifted : sink.taken ++ rest = produced before := by
      rw [more, List.append_assoc, ← split, taken]
    cases rest with
    | nil =>
      rw [List.append_nil] at shifted
      exact ⟨on, nothing.symm ▸ shifted, nothing.symm ▸ bytes⟩
    | cons b rest => exact ⟨on, nothing.symm ▸ shifted, nothing.symm ▸ bytes⟩

theorem shutsDown (h : Traced source before t) {failure : Option IoError}
    (phase : t.copy.phase = .ending failure) :
    Traced source (before ++ [.shutdown])
      { t with sink := t.sink.shutdown, copy := t.copy.onShutdown failure } := by
  have now := h.phase
  rw [phase] at now
  obtain ⟨loop, last, rfl, account⟩ := now
  refine ⟨?_, loop, last, List.append_assoc .., account.goOn, account.ends, account.taken_isPrefix,
    account.ended, account.failed⟩
  rw [produced_concat]
  exact (List.append_nil _).symm ▸ h.read

/-- Every call of a copy keeps the account of its calls. -/
theorem step (h : Traced source before t) (step : t.step = some t') :
    Traced source (before ++ t.call?.toList) t' :=
  step_keeps h.reads (fun _ _ => h.writes) (fun _ => h.shutsDown) step

theorem runFor (h : Traced source before t) (n : Nat) :
    Traced source (before ++ calls n t) (runFor n t) :=
  runFor_keeps (fun before step => before.step step) h n

end Traced

/-! ## Whole copies -/

theorem lose_frame {cause : IoError} (lost : t.lose cause = some t') :
    t'.source = t.source ∧ t'.sink.taken = t.sink.taken ∧ t'.copy.isDone = true := by
  unfold lose at lost
  split at lost
  · cases lost
  · cases lost; exact ⟨rfl, rfl, rfl⟩

/-- A run moves the bytes that a number of calls moves: losing the task moves none. -/
theorem runInputs_bytes (t : Transfer) (inputs : List CopyInput) :
    ∃ n, (t.runInputs inputs).source = (runFor n t).source ∧
      (t.runInputs inputs).sink.taken = (runFor n t).sink.taken := by
  induction inputs generalizing t with
  | nil => exact ⟨0, rfl, rfl⟩
  | cons i inputs ih =>
    cases ended : t.copy.isDone with
    | true =>
      rw [runInputs_of_isDone ended]
      exact ⟨0, rfl, rfl⟩
    | false =>
      obtain ⟨t', moved⟩ := exists_move ended i
      rw [runInputs, moved, Option.getD_some]
      cases i with
      | call =>
        obtain ⟨n, rest⟩ := ih t'
        have step : t.step = some t' := moved
        exact ⟨n + 1, by rw [runFor, step]; exact rest⟩
      | lost cause =>
        obtain ⟨unread, taken, done⟩ := lose_frame moved
        rw [runInputs_of_isDone done]
        exact ⟨0, unread, taken⟩

/-- How a copy of `source` that starts as `t` relays it. -/
structure RelaysInOrder (source : Source) (t : Transfer) : Prop where
  /-- After any calls the sink has a beginning of what was read, which is a beginning of what the
  source has. -/
  calls : ∀ n, produced (calls n t) ++ (runFor n t).source.all = source.all ∧
    (runFor n t).sink.taken <+: produced (calls n t)
  /-- So it is when the task is lost, and the sink is shut down once, at the end. -/
  inputs : ∀ inputs, ∃ read, read ++ (t.runInputs inputs).source.all = source.all ∧
    (t.runInputs inputs).sink.taken <+: read ∧
    (t.runInputs inputs).sink.shutdowns = if (t.runInputs inputs).copy.isDone then 1 else 0
  /-- The first call that gives no bytes, or an error, ends the loop, and the sink is shut down. -/
  whole : ∃ loop last failure, Transfer.calls t.fuel t = loop ++ [last, .shutdown] ∧
    Over source loop last failure t.run ∧ t.run.copy.phase = .done failure ∧
    t.run.sink.shutdowns = 1

theorem start_relaysInOrder (bufferSize : UInt64) (source : Source) (answers : List WriteAnswer) :
    RelaysInOrder source (start bufferSize source { answers }) := by
  have first := Traced.start bufferSize source answers
  have room : 0 < (start bufferSize source { answers }).copy.bufferSize := Nat.le_max_right ..
  have alive : (start bufferSize source { answers }).copy.isDone = false := rfl
  have unshut : (start bufferSize source { answers }).sink.shutdowns = 0 := rfl
  generalize start bufferSize source { answers } = t at first room alive unshut ⊢
  have shut (inputs : List CopyInput) := shutdowns_runInputs alive inputs
  simp only [unshut, Nat.zero_add] at shut
  refine ⟨fun n => ⟨(first.runFor n).read, (first.runFor n).taken_isPrefix⟩, fun inputs => ?_, ?_⟩
  · obtain ⟨n, unread, taken⟩ := t.runInputs_bytes inputs
    rw [unread, taken]
    exact ⟨_, (first.runFor n).read, (first.runFor n).taken_isPrefix, shut inputs⟩
  · have done : t.run.copy.isDone = true := isDone_run room
    obtain ⟨failure, phase⟩ := Copy.isDone_iff.mp done
    have traced : Traced source (calls t.fuel t) t.run := first.runFor t.fuel
    have told := traced.phase
    rw [phase] at told
    obtain ⟨loop, last, made, account⟩ := told
    have once := shut (List.replicate t.fuel .call)
    rw [← runFor_eq, ← run, done] at once
    exact ⟨loop, last, failure, made, account, phase, once⟩

/-- The smallest buffer is one byte. The second write fails. -/
example : (start 0 ⟨[[1, 2], [3]], none⟩ { answers := [.accept 5, .failed (.os 32)] }).run =
    { copy := { bufferSize := 1, phase := .done (some (.os 32)), bytes := 1 }
      source := { pieces := [[3]] }
      sink := { taken := [1], shutdowns := 1 } } := by
  decide

end Transfer

end SocketRelay.Tcp
