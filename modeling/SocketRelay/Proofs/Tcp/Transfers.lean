import SocketRelay.Tcp.Copy
import Mathlib.Data.List.Basic

/-!
# A copy from its start to its end

What a source gives is the beginning of what it had, and a sink that takes a part
leaves the rest. So every input of a transfer uses something up
(`Transfer.potential_move`), a transfer that gets enough inputs is done
(`Transfer.isDone_runInputs`), and it shuts its sink down once
(`Transfer.shutdowns_runInputs`). Calls alone lead all to the same end
(`Transfer.runInputs_eq_run`).
-/

namespace SocketRelay.Tcp

open Net

theorem flatten_dropWhile_isEmpty (pieces : List Bytes) :
    (pieces.dropWhile (·.isEmpty)).flatten = pieces.flatten := by
  induction pieces with
  | nil => rfl
  | cons piece rest ih =>
    cases piece with
    | nil => exact ih
    | cons b bs => rfl

namespace Source

variable {s s' : Source} {size : Nat} {bs : Bytes}

theorem read_bytes (h : s.read size = (.bytes bs, s')) :
    s.all = bs ++ s'.all ∧ s'.pieces.length ≤ s.pieces.length ∧ (0 < size → bs ≠ []) := by
  have length := (List.dropWhile_sublist (·.isEmpty) (l := s.pieces)).length_le
  have all := flatten_dropWhile_isEmpty s.pieces
  have filled := List.head?_dropWhile_not (·.isEmpty) s.pieces
  unfold read at h
  split at h
  · split at h <;> cases h
  · next piece rest eq =>
    cases h
    rw [eq, List.head?_cons] at filled
    rw [eq] at length all
    have nonempty : piece ≠ [] := by
      rintro rfl
      cases filled
    refine ⟨?_, ?_, fun room nothing => ?_⟩
    · have cut := List.take_append_drop size piece
      unfold Source.all
      rw [← all, List.flatten_cons]
      by_cases whole : piece.drop size = []
      · rw [whole, List.append_nil] at cut
        rw [if_pos whole, cut]
      · rw [if_neg whole, List.flatten_cons, ← List.append_assoc, cut]
    · by_cases whole : piece.drop size = []
      · simp only [whole, if_true, List.length_cons] at length ⊢
        omega
      · simpa only [whole, if_false, List.length_cons] using length
    · rcases List.take_eq_nil_iff.mp nothing with zero | empty
      · omega
      · exact nonempty empty

theorem read_pieces {result : ReadResult} (h : s.read size = (result, s'))
    (other : ∀ bs, result ≠ .bytes bs) : s'.pieces = [] := by
  unfold read at h
  split at h
  · split at h <;> cases h <;> rfl
  · cases h
    exact absurd rfl (other _)

/-- What cannot be read on has been read. -/
theorem read_other {result : ReadResult} (h : s.read size = (result, s'))
    (other : ∀ bs, result ≠ .bytes bs) : s.all = [] := by
  have same := flatten_dropWhile_isEmpty s.pieces
  unfold read at h
  split at h
  · next nothing => rw [Source.all, ← same, nothing, List.flatten_nil]
  · cases h
    exact absurd rfl (other _)

end Source

namespace Sink

variable {s s' : Sink} {bs left : Bytes}

theorem shutdowns_write (s : Sink) (bs : Bytes) : (s.write bs).2.shutdowns = s.shutdowns := by
  unfold write
  dsimp only
  split
  · split <;> rfl
  · split <;> rfl
  · rfl

theorem write_ok (h : s.write bs = (.ok left, s')) :
    ∃ taken, bs = taken ++ left ∧ taken ≠ [] ∧ s'.taken = s.taken ++ taken := by
  have part (count : Nat) (le : count ≤ bs.length) (more : count ≠ 0) : bs.take count ≠ [] := by
    intro nothing
    rcases List.take_eq_nil_iff.mp nothing with zero | rfl
    · exact more zero
    · exact more (Nat.le_zero.mp le)
  unfold write at h
  dsimp only at h
  split at h
  · split at h
    · cases h
    · next more =>
      cases h
      exact ⟨_, (List.take_append_drop _ bs).symm, part _ (Nat.le_refl _) more, rfl⟩
  · split at h
    · cases h
    · next more =>
      cases h
      exact ⟨_, (List.take_append_drop _ bs).symm, part _ (Nat.min_le_right ..) more, rfl⟩
  · cases h

theorem write_error {cause : IoError} (h : s.write bs = (.error cause, s')) :
    s'.taken = s.taken := by
  unfold write at h
  dsimp only at h
  split at h
  · split at h <;> cases h
    rfl
  · split at h <;> cases h
    rfl
  · cases h
    rfl

end Sink

theorem Copy.isDone_iff {c : Copy} : c.isDone = true ↔ ∃ failure, c.phase = .done failure := by
  unfold isDone
  cases c.phase <;> simp

namespace Transfer

variable {t t' : Transfer} {i : CopyInput} {inputs : List CopyInput}

theorem step_isSome (t : Transfer) : t.step.isSome = !t.copy.isDone := by
  unfold step Copy.isDone
  cases t.copy.phase <;> rfl

/-- A transfer takes every input until it is done. -/
theorem move_isSome (t : Transfer) (i : CopyInput) : (t.move i).isSome = !t.copy.isDone := by
  cases i with
  | call => exact t.step_isSome
  | lost cause =>
    unfold move lose
    cases t.copy.isDone <;> rfl

theorem move_eq_none (done : t.copy.isDone = true) (i : CopyInput) : t.move i = none := by
  rw [← Option.isNone_iff_eq_none, ← Option.not_isSome, move_isSome, done]
  rfl

theorem exists_move (alive : t.copy.isDone = false) (i : CopyInput) : ∃ t', t.move i = some t' := by
  rw [← Option.isSome_iff_exists, move_isSome, alive]
  rfl

theorem runInputs_of_isDone (done : t.copy.isDone = true) (inputs : List CopyInput) :
    t.runInputs inputs = t := by
  induction inputs with
  | nil => rfl
  | cons i inputs ih =>
    rw [runInputs, move_eq_none done]
    exact ih

theorem runInputs_append (t : Transfer) (first second : List CopyInput) :
    t.runInputs (first ++ second) = (t.runInputs first).runInputs second := by
  induction first generalizing t with
  | nil => rfl
  | cons i first ih => exact ih _

/-! ## Shutting the sink down -/

theorem shutdowns_move (h : t.move i = some t') :
    t'.sink.shutdowns = t.sink.shutdowns + if t'.copy.isDone then 1 else 0 := by
  cases i with
  | lost cause =>
    simp only [move, lose] at h
    split at h
    · cases h
    · cases h; rfl
  | call =>
    simp only [move, step] at h
    split at h
    · cases h
      dsimp only
      cases (t.source.read t.copy.bufferSize).1 <;> rfl
    · next left size _ =>
      cases h
      dsimp only
      rw [Sink.shutdowns_write]
      split
      · next done =>
        unfold Copy.onWrite at done
        split at done <;> cases done
      · rfl
    · cases h; rfl
    · cases h

theorem shutdowns_runInputs (alive : t.copy.isDone = false) (inputs : List CopyInput) :
    (t.runInputs inputs).sink.shutdowns =
      t.sink.shutdowns + if (t.runInputs inputs).copy.isDone then 1 else 0 := by
  induction inputs generalizing t with
  | nil => rw [runInputs, alive]; rfl
  | cons i inputs ih =>
    obtain ⟨t', moved⟩ := exists_move alive i
    have shut := shutdowns_move moved
    rw [runInputs, moved, Option.getD_some]
    cases ended : t'.copy.isDone with
    | true =>
      rw [runInputs_of_isDone ended, ended]
      rw [ended] at shut
      exact shut
    | false =>
      rw [ended] at shut
      rw [ih ended, shut]
      rfl

/-! ## Coming to an end -/

/-- What a transfer can still use up. -/
def potential (t : Transfer) : Nat :=
  2 * (t.source.all.length + t.source.pieces.length) +
    match t.copy.phase with
    | .reading => 2
    | .writing left _ => left.length + 2
    | .ending _ => 1
    | .done _ => 0

theorem potential_le_fuel (t : Transfer) : t.potential ≤ t.fuel := by
  unfold potential fuel
  cases t.copy.phase <;> dsimp only <;> omega

theorem potential_read (room : 0 < t.copy.bufferSize) (phase : t.copy.phase = .reading) :
    potential { t with
      source := (t.source.read t.copy.bufferSize).2
      copy := t.copy.onRead (t.source.read t.copy.bufferSize).1 } < t.potential := by
  unfold potential
  rw [phase]
  obtain ⟨result, source, read⟩ : ∃ result source,
    t.source.read t.copy.bufferSize = (result, source) := ⟨_, _, rfl⟩
  rw [read]
  cases result with
  | bytes bs =>
    obtain ⟨all, pieces, filled⟩ := Source.read_bytes read
    have bytes := List.length_pos_of_ne_nil (filled room)
    have total := congrArg List.length all
    rw [List.length_append] at total
    simp only [Copy.onRead]
    omega
  | ended | failed =>
    have pieces := Source.read_pieces read fun _ same => by cases same
    simp only [Copy.onRead, Source.all, pieces, List.flatten_nil, List.length_nil]
    omega

theorem potential_write {left : Bytes} {size : Nat} (phase : t.copy.phase = .writing left size) :
    potential { t with
      sink := (t.sink.write left).2
      copy := t.copy.onWrite size (t.sink.write left).1 } < t.potential := by
  unfold potential
  rw [phase]
  obtain ⟨result, sink, wrote⟩ : ∃ result sink, t.sink.write left = (result, sink) := ⟨_, _, rfl⟩
  rw [wrote]
  cases result with
  | error cause => simp only [Copy.onWrite]; omega
  | ok rest =>
    obtain ⟨taken, split, part, -⟩ := Sink.write_ok wrote
    have bytes := List.length_pos_of_ne_nil part
    have total := congrArg List.length split
    rw [List.length_append] at total
    cases rest with
    | nil => simp only [Copy.onWrite]; omega
    | cons b rest => simp only [Copy.onWrite]; omega

/-- Every input uses something up. -/
theorem potential_move (room : 0 < t.copy.bufferSize) (h : t.move i = some t') :
    t'.potential < t.potential ∧ t'.copy.bufferSize = t.copy.bufferSize := by
  cases i with
  | lost cause =>
    simp only [move, lose] at h
    split at h
    · cases h
    · next alive =>
      cases h
      refine ⟨?_, rfl⟩
      unfold potential
      unfold Copy.isDone at alive
      cases phase : t.copy.phase with
      | reading | writing | ending => simp only [Copy.onLoss]; omega
      | done => rw [phase] at alive; exact absurd rfl alive
  | call =>
    simp only [move, step] at h
    split at h
    · next phase =>
      cases h
      refine ⟨potential_read room phase, ?_⟩
      dsimp only
      cases (t.source.read t.copy.bufferSize).1 <;> rfl
    · next left size phase =>
      cases h
      refine ⟨potential_write phase, ?_⟩
      dsimp only
      unfold Copy.onWrite
      split <;> rfl
    · next failure phase =>
      cases h
      refine ⟨?_, rfl⟩
      unfold potential
      rw [phase]
      simp only [Copy.onShutdown]
      omega
    · cases h

theorem isDone_of_potential (spent : t.potential = 0) : t.copy.isDone = true := by
  unfold potential at spent
  unfold Copy.isDone
  cases phase : t.copy.phase with
  | reading | writing | ending => rw [phase] at spent; dsimp only at spent; omega
  | done => rfl

theorem isDone_runInputs (room : 0 < t.copy.bufferSize) (enough : t.potential ≤ inputs.length) :
    (t.runInputs inputs).copy.isDone = true := by
  induction inputs generalizing t with
  | nil => exact isDone_of_potential (Nat.le_zero.mp enough)
  | cons i inputs ih =>
    cases ended : t.copy.isDone with
    | true => rw [runInputs_of_isDone ended]; exact ended
    | false =>
      obtain ⟨t', moved⟩ := exists_move ended i
      obtain ⟨less, size⟩ := potential_move room moved
      rw [runInputs, moved, Option.getD_some]
      rw [List.length_cons] at enough
      exact ih (size ▸ room) (by omega)

theorem runFor_eq (n : Nat) (t : Transfer) : runFor n t = t.runInputs (List.replicate n .call) := by
  induction n generalizing t with
  | zero => rfl
  | succ n ih =>
    rw [runFor, List.replicate_succ, runInputs, move]
    cases step : t.step with
    | none =>
      have done : t.copy.isDone = true := by
        have := t.step_isSome
        rw [step] at this
        simpa using this.symm
      exact (runInputs_of_isDone done _).symm
    | some t' => exact ih t'

theorem isDone_run (room : 0 < t.copy.bufferSize) : t.run.copy.isDone = true := by
  rw [run, runFor_eq]
  refine isDone_runInputs room ?_
  rw [List.length_replicate]
  exact t.potential_le_fuel

/-- Calls that end a transfer end it as calls until it is done do. -/
theorem runInputs_eq_run (room : 0 < t.copy.bufferSize) (calls : ∀ i ∈ inputs, i = .call)
    (done : (t.runInputs inputs).copy.isDone = true) : t.runInputs inputs = t.run := by
  have whole := isDone_run room
  rw [List.eq_replicate_of_mem calls] at done ⊢
  rw [run, runFor_eq] at whole ⊢
  generalize inputs.length = n at done ⊢
  rcases Nat.le_total n t.fuel with le | le
  · obtain ⟨more, eq⟩ := Nat.exists_eq_add_of_le le
    rw [eq, List.replicate_add, runInputs_append, runInputs_of_isDone done]
  · obtain ⟨more, eq⟩ := Nat.exists_eq_add_of_le le
    rw [eq, List.replicate_add, runInputs_append, runInputs_of_isDone whole]

end Transfer

end SocketRelay.Tcp
