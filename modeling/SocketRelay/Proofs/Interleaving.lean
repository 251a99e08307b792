import Mathlib.Data.List.Perm.Basic

/-!
# Interleavings

`Interleaving ls out` says that several writers have written `out`, each of them
its own list of `ls` in the order of that list. It does not matter in which order
the writers stand, nor whether there are more of them that have written nothing.
-/

namespace SocketRelay

variable {α σ : Type}

/-- The same element stands for another in both lists. -/
theorem perm_exchange {l r l' r' : List α} {a : α} (same : (l ++ a :: r).Perm (l' ++ a :: r'))
    (b : α) : (l ++ b :: r).Perm (l' ++ b :: r') := by
  have others := (List.perm_middle.symm.trans (same.trans List.perm_middle)).cons_inv
  exact List.perm_middle.trans ((others.cons b).trans List.perm_middle.symm)

/-- One list that is written from several, each in its own order. -/
inductive Interleaving : List (List α) → List α → Prop where
  | none {ls : List (List α)} (empty : ∀ l ∈ ls, l = []) : Interleaving ls []
  | write {left right : List (List α)} {l out : List α} (a : α)
    (before : Interleaving (left ++ l :: right) out) :
    Interleaving (left ++ (l ++ [a]) :: right) (out ++ [a])

namespace Interleaving

variable {ls ls' : List (List α)} {out : List α}

theorem perm (h : Interleaving ls out) (same : ls.Perm ls') : Interleaving ls' out := by
  induction h generalizing ls' with
  | none empty => exact .none fun l hl => empty l (same.mem_iff.mpr hl)
  | @write left right l out a _ ih =>
    have mem : l ++ [a] ∈ ls' := same.subset (List.mem_append_right _ List.mem_cons_self)
    obtain ⟨left', right', rfl⟩ := List.append_of_mem mem
    exact .write a (ih (perm_exchange same l))

/-- One writer goes on. -/
theorem append {left right : List (List α)} {l : List α}
    (h : Interleaving (left ++ l :: right) out) (more : List α) :
    Interleaving (left ++ (l ++ more) :: right) (out ++ more) := by
  induction more generalizing l out with
  | nil => rwa [List.append_nil, List.append_nil]
  | cons a more ih =>
    rw [List.append_cons l, List.append_cons out]
    exact ih (.write a h)

/-- Writers that have written nothing. -/
theorem append_empty (h : Interleaving ls out) {more : List (List α)}
    (empty : ∀ l ∈ more, l = []) : Interleaving (ls ++ more) out := by
  induction h with
  | none empty' =>
    exact .none fun l hl => (List.mem_append.mp hl).elim (empty' l) (empty l)
  | write a _ ih =>
    rw [List.append_assoc, List.cons_append] at ih ⊢
    exact .write a ih

theorem cons_empty (h : Interleaving ls out) : Interleaving ([] :: ls) out := by
  have more : Interleaving (ls ++ [[]]) out := h.append_empty fun _ hl => List.mem_singleton.mp hl
  exact more.perm (List.perm_append_singleton _ _)

/-- Only who has written something counts. -/
theorem nonempty (h : Interleaving ls out) : Interleaving (ls.filter (!·.isEmpty)) out := by
  induction h with
  | none empty =>
    refine .none fun l hl => empty l (List.mem_filter.mp hl).1
  | @write left right l out a _ ih =>
    have wrote : (!(l ++ [a]).isEmpty) = true := by cases l <;> rfl
    have now : (left ++ (l ++ [a]) :: right).filter (!·.isEmpty) =
        left.filter (!·.isEmpty) ++ (l ++ [a]) :: right.filter (!·.isEmpty) := by
      rw [List.filter_append, List.filter_cons, if_pos wrote]
    rw [now]
    rw [List.filter_append] at ih
    refine .write a ?_
    cases l with
    | nil => exact ih.cons_empty.perm List.perm_middle.symm
    | cons b l => exact ih

theorem of_append_empty {more : List (List α)} (h : Interleaving (ls ++ more) out)
    (empty : ∀ l ∈ more, l = []) : Interleaving ls out := by
  have none : more.filter (!·.isEmpty) = [] :=
    List.filter_eq_nil_iff.mpr fun l hl => by rw [empty l hl]; exact Bool.false_ne_true
  have wrote := h.nonempty
  rw [List.filter_append, none, List.append_nil] at wrote
  have rest : ∀ l ∈ ls.filter (fun l => !(!l.isEmpty)), l = [] := fun l hl => by
    simpa using (List.mem_filter.mp hl).2
  exact (wrote.append_empty rest).perm (List.filter_append_perm _ ls)

theorem filter (h : Interleaving ls out) (p : α → Bool) :
    Interleaving (ls.map (·.filter p)) (out.filter p) := by
  induction h with
  | none empty =>
    refine .none fun l hl => ?_
    obtain ⟨l', hl', rfl⟩ := List.mem_map.mp hl
    rw [empty l' hl', List.filter_nil]
  | write a _ ih =>
    simp only [List.map_append, List.map_cons, List.filter_append] at ih ⊢
    cases holds : p a with
    | true =>
      rw [List.filter_cons_of_pos holds, List.filter_nil]
      exact .write a ih
    | false =>
      rw [List.filter_cons_of_neg (Bool.not_eq_true _ ▸ holds), List.filter_nil, List.append_nil,
        List.append_nil]
      exact ih

/-- What some of the writers wrote, if it can be told from what the others wrote. -/
theorem select {ss : List σ} {f : σ → List α} (h : Interleaving (ss.map f) out) (q : σ → Bool)
    (p : α → Bool) (told : ∀ s ∈ ss, ∀ a ∈ f s, p a = q s) :
    Interleaving ((ss.filter q).map f) (out.filter p) := by
  have mine : ∀ s ∈ ss.filter q, (f s).filter p = f s := fun s hs => by
    obtain ⟨mem, yes⟩ := List.mem_filter.mp hs
    exact List.filter_eq_self.mpr fun a ha => (told s mem a ha).trans yes
  have others : ∀ l ∈ (ss.filter (!q ·)).map fun s => (f s).filter p, l = [] := fun l hl => by
    obtain ⟨s, hs, rfl⟩ := List.mem_map.mp hl
    obtain ⟨mem, no⟩ := List.mem_filter.mp hs
    refine List.filter_eq_nil_iff.mpr fun a ha yes => ?_
    rw [told s mem a ha] at yes
    rw [yes] at no
    cases no
  have chosen : Interleaving (ss.map fun s => (f s).filter p) (out.filter p) := by
    have := h.filter p
    rw [List.map_map] at this
    exact this
  have split := chosen.perm ((List.filter_append_perm q ss).symm.map _)
  rw [List.map_append] at split
  have only := split.of_append_empty others
  rwa [List.map_congr_left mine] at only

theorem flatten_perm (h : Interleaving ls out) : out.Perm ls.flatten := by
  induction h with
  | none empty => rw [List.flatten_eq_nil_iff.mpr empty]
  | @write left right l out a _ ih =>
    rw [List.flatten_append, List.flatten_cons] at ih ⊢
    rw [List.append_assoc, ← List.append_assoc]
    refine (ih.append_right [a]).trans ?_
    rw [← List.append_assoc, List.append_assoc]
    refine ((List.perm_append_comm).append_left _).trans ?_
    rw [← List.append_assoc]

theorem sublist (h : Interleaving ls out) {l : List α} (mem : l ∈ ls) : l.Sublist out := by
  induction h generalizing l with
  | none empty => rw [empty l mem]
  | write a _ ih =>
    rcases List.mem_append.mp mem with mem | mem
    · exact (ih (List.mem_append_left _ mem)).trans (List.sublist_append_left ..)
    · rcases List.mem_cons.mp mem with rfl | mem
      · exact (ih (List.mem_append_right _ List.mem_cons_self)).append (.refl [a])
      · exact (ih (List.mem_append_right _ (List.mem_cons_of_mem _ mem))).trans
          (List.sublist_append_left ..)

theorem eq_of_singleton {l : List α} (h : Interleaving [l] out) : out = l := by
  have length := h.flatten_perm.length_eq
  rw [List.flatten_singleton] at length
  exact ((h.sublist List.mem_cons_self).eq_of_length length.symm).symm

end Interleaving

end SocketRelay
