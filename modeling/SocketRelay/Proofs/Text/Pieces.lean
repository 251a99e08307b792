import SocketRelay.Text.Blank
import SocketRelay.Text.Split
import Mathlib.Data.List.DropRight

/-!
# Pieces of texts

A text that was put together from pieces without the separator comes apart into
these pieces (`splitFirst_append`, `splitLast_append`, `splitAll_intercalate`).
Dropping characters at both ends leaves a text alone that has none there
(`dropEnds_eq_self`), and what is left has none there; nothing is left of a text of
such characters (`dropEnds_eq_nil_iff`). `Stripped` says in general what is left
(`dropEnds_eq_iff`).
-/

namespace SocketRelay.Text

variable {sep : Char} {cs : List Char}

theorem splitFirst_append {a : List Char} (absent : sep ∉ a) (b : List Char) :
    splitFirst sep (a ++ sep :: b) = some (a, b) := by
  induction a with
  | nil => rw [List.nil_append, splitFirst, if_pos rfl]
  | cons c a ih =>
    have other : c ≠ sep := fun same => absent (same ▸ List.mem_cons_self)
    rw [List.cons_append, splitFirst, if_neg other,
      ih fun mem => absent (List.mem_cons_of_mem c mem)]
    rfl

theorem splitLast_append (a : List Char) {b : List Char} (absent : sep ∉ b) :
    splitLast sep (a ++ sep :: b) = some (a, b) := by
  induction a with
  | nil => rw [List.nil_append, splitLast, splitLast_eq_none.mpr absent]; exact if_pos rfl
  | cons c a ih => rw [List.cons_append, splitLast, ih]

theorem splitAll_eq_splitOn (sep : Char) (cs : List Char) : splitAll sep cs = cs.splitOn sep := by
  induction cs with
  | nil => rfl
  | cons c cs ih =>
    obtain ⟨piece, rest, pieces⟩ := List.exists_cons_of_ne_nil (splitAll_ne_nil sep cs)
    rw [splitAll, List.splitOn, List.splitOnP_cons_eq_if_modifyHead, ← List.splitOn, ← ih, pieces]
    by_cases same : c = sep
    · rw [if_pos same, if_pos (beq_iff_eq.mpr same)]
    · rw [if_neg same, if_neg (mt beq_iff_eq.mp same)]
      rfl

theorem splitAll_append (sep : Char) (a b : List Char) :
    splitAll sep (a ++ sep :: b) = splitAll sep a ++ splitAll sep b := by
  rw [splitAll_eq_splitOn, splitAll_eq_splitOn, splitAll_eq_splitOn]
  exact List.splitOnP_append_cons a b (beq_self_eq_true sep)

theorem splitAll_intercalate {pieces : List (List Char)} (absent : ∀ piece ∈ pieces, sep ∉ piece)
    (nonempty : pieces ≠ []) : splitAll sep ([sep].intercalate pieces) = pieces := by
  rw [splitAll_eq_splitOn]
  exact List.splitOn_intercalate sep absent nonempty

theorem splitAll_of_notMem (absent : sep ∉ cs) : splitAll sep cs = [cs] := by
  rw [splitAll_eq_splitOn]
  exact List.splitOnP_eq_singleton fun c mem => beq_eq_false_iff_ne.mpr fun same =>
    absent (same ▸ mem)

theorem notMem_of_mem_splitAll {piece : List Char} (h : piece ∈ splitAll sep cs) : sep ∉ piece := by
  induction cs generalizing piece with
  | nil =>
    rw [List.mem_singleton.mp h]
    exact List.not_mem_nil
  | cons c cs ih =>
    unfold splitAll at h
    split at h
    · rcases List.mem_cons.mp h with rfl | h
      · exact List.not_mem_nil
      · exact ih h
    · next other =>
      obtain ⟨first, rest, pieces⟩ := List.exists_cons_of_ne_nil (splitAll_ne_nil sep cs)
      rw [pieces] at h ih
      rcases List.mem_cons.mp h with rfl | h
      · intro mem
        rcases List.mem_cons.mp mem with same | mem
        · exact other same.symm
        · exact ih List.mem_cons_self mem
      · exact ih (List.mem_cons_of_mem _ h)

/-! ## Ends -/

section
variable {p q : Char → Bool}

theorem dropEndWhile_eq_rdropWhile (p : Char → Bool) (cs : List Char) :
    dropEndWhile p cs = cs.rdropWhile p := rfl

theorem dropWhile_eq_self (first : ∀ c ∈ cs.head?, p c = false) : cs.dropWhile p = cs := by
  cases cs with
  | nil => rfl
  | cons c cs => exact List.dropWhile_cons_of_neg (Bool.eq_false_iff.mp (first c rfl))

theorem dropEndWhile_eq_self (last : ∀ c ∈ cs.getLast?, q c = false) : dropEndWhile q cs = cs :=
  List.rdropWhile_eq_self_iff.mpr fun nonempty =>
    Bool.eq_false_iff.mp (last _ (List.getLast?_eq_some_getLast nonempty))

theorem dropEndWhile_append_of_pos {back : List Char} (ended : ∀ c ∈ back, q c = true) :
    dropEndWhile q (cs ++ back) = dropEndWhile q cs := by
  unfold dropEndWhile
  rw [List.reverse_append,
    List.dropWhile_append_of_pos fun c mem => ended c (List.mem_reverse.mp mem)]

theorem dropEnds_eq_self (first : ∀ c ∈ cs.head?, p c = false)
    (last : ∀ c ∈ cs.getLast?, q c = false) : dropEndWhile q (cs.dropWhile p) = cs := by
  rw [dropWhile_eq_self first, dropEndWhile_eq_self last]

theorem mem_of_mem_dropEnds {c : Char} (h : c ∈ dropEndWhile q (cs.dropWhile p)) : c ∈ cs :=
  (List.dropWhile_suffix p).subset ((List.rdropWhile_prefix q _).subset h)

theorem head?_dropEnds {c : Char} (h : c ∈ (dropEndWhile q (cs.dropWhile p)).head?) :
    p c = false := by
  obtain ⟨rest, dropped⟩ := List.rdropWhile_prefix q (cs.dropWhile p)
  have head : (cs.dropWhile p).head? = some c := by
    rw [← dropped, List.head?_append, ← dropEndWhile_eq_rdropWhile, h, Option.some_or]
  have not := List.head?_dropWhile_not p cs
  rw [head] at not
  exact not

theorem getLast?_dropEnds {c : Char} (h : c ∈ (dropEndWhile q (cs.dropWhile p)).getLast?) :
    q c = false := by
  have nonempty : dropEndWhile q (cs.dropWhile p) ≠ [] := fun none => by rw [none] at h; cases h
  rw [List.getLast?_eq_some_getLast nonempty] at h
  cases h
  exact Bool.eq_false_iff.mpr (List.rdropWhile_last_not q (cs.dropWhile p) nonempty)

/-- Nothing is left if all is dropped. -/
theorem dropEnds_eq_nil_iff :
    dropEndWhile p (cs.dropWhile p) = [] ↔ ∀ c ∈ cs, p c = true := by
  rw [dropEndWhile_eq_rdropWhile, List.rdropWhile_eq_nil_iff]
  refine ⟨fun rest => ?_, fun all c hc => all c ((List.dropWhile_suffix p).subset hc)⟩
  by_contra some
  have nonempty : cs.dropWhile p ≠ [] := mt List.dropWhile_eq_nil_iff.mp some
  have first := List.head_dropWhile_not p nonempty
  rw [rest _ (List.head_mem nonempty)] at first
  cases first

/-- What is left of a text without all that `p` holds of in front and all that `q` holds of at
the end. -/
structure Stripped (p q : Char → Bool) (cs kept : List Char) : Prop where
  whole : ∃ front back, cs = front ++ kept ++ back ∧ (∀ c ∈ front, p c = true) ∧
    ∀ c ∈ back, q c = true
  head : ∀ c ∈ kept.head?, p c = false
  last : ∀ c ∈ kept.getLast?, q c = false

theorem dropEnds_eq_iff {kept : List Char} :
    dropEndWhile q (cs.dropWhile p) = kept ↔ Stripped p q cs kept := by
  constructor
  · rintro rfl
    refine ⟨⟨cs.takeWhile p, (cs.dropWhile p).rtakeWhile q, ?_, ?_, ?_⟩,
      fun c => head?_dropEnds, fun c => getLast?_dropEnds⟩
    · rw [List.append_assoc, dropEndWhile_eq_rdropWhile, List.rdropWhile_append_rtakeWhile,
        List.takeWhile_append_dropWhile]
    · exact fun c mem => List.mem_takeWhile_imp mem
    · exact fun c mem => List.mem_rtakeWhile_imp mem
  · rintro ⟨⟨front, back, rfl, dropped, ended⟩, head, last⟩
    rw [List.append_assoc, List.dropWhile_append_of_pos dropped]
    cases kept with
    | nil =>
      exact List.rdropWhile_eq_nil_iff.mpr fun c mem =>
        ended c ((List.dropWhile_suffix p).subset mem)
    | cons c kept =>
      have unmoved : (c :: kept ++ back).dropWhile p = c :: kept ++ back := dropWhile_eq_self head
      rw [unmoved, dropEndWhile_append_of_pos ended, dropEndWhile_eq_self last]

/-- More of what is dropped at the end does not matter. -/
theorem dropEnds_append {back : List Char} (ended : ∀ c ∈ back, q c = true) :
    dropEndWhile q ((cs ++ back).dropWhile p) = dropEndWhile q (cs.dropWhile p) := by
  obtain ⟨⟨front, before, whole, dropped, ended'⟩, head, last⟩ :=
    dropEnds_eq_iff.mp (rfl : dropEndWhile q (cs.dropWhile p) = _)
  refine dropEnds_eq_iff.mpr ⟨⟨front, before ++ back, ?_, dropped, ?_⟩, head, last⟩
  · nth_rewrite 1 [whole]
    rw [List.append_assoc]
  · exact List.forall_mem_append.mpr ⟨ended', ended⟩

end

theorem isBlankText_eq_false_iff {s : String} :
    isBlankText s = false ↔ ∃ c ∈ s.toList, isBlank c = false := by
  rw [isBlankText, List.isEmpty_eq_false_iff, ne_eq, trim, dropEnds_eq_nil_iff]
  simp only [not_forall, Bool.not_eq_true, exists_prop]

end SocketRelay.Text
