/-!
# Splitting a text at a separator

`splitFirst` and `splitLast` cut once, at the first or last separator;
`splitAll` cuts at every one. The pieces joined with the separator give the
text back.
-/

namespace SocketRelay.Text

/-- The texts before and after the first `sep`. -/
def splitFirst (sep : Char) : List Char → Option (List Char × List Char)
  | [] => none
  | c :: cs =>
    if c = sep then some ([], cs)
    else (splitFirst sep cs).map fun p => (c :: p.1, p.2)

/-- The texts before and after the last `sep`. -/
def splitLast (sep : Char) : List Char → Option (List Char × List Char)
  | [] => none
  | c :: cs =>
    match splitLast sep cs with
    | some (a, b) => some (c :: a, b)
    | none => if c = sep then some ([], cs) else none

/-- The pieces between the separators, always at least one. -/
def splitAll (sep : Char) : List Char → List (List Char)
  | [] => [[]]
  | c :: cs =>
    if c = sep then [] :: splitAll sep cs
    else
      match splitAll sep cs with
      | p :: ps => (c :: p) :: ps
      | [] => [[c]]

theorem splitFirst_eq_some {sep : Char} {cs a b : List Char} (h : splitFirst sep cs = some (a, b)) :
    cs = a ++ sep :: b ∧ sep ∉ a := by
  induction cs generalizing a with
  | nil => simp [splitFirst] at h
  | cons c cs ih =>
    unfold splitFirst at h
    split at h
    · next hc => cases h; simp [hc]
    · next hc =>
      obtain ⟨⟨a', b'⟩, h', e⟩ := Option.map_eq_some_iff.1 h
      cases e
      obtain ⟨rfl, hn⟩ := ih h'
      exact ⟨rfl, by simp [hn, Ne.symm hc]⟩

theorem splitFirst_eq_none {sep : Char} {cs : List Char} : splitFirst sep cs = none ↔ sep ∉ cs := by
  induction cs with
  | nil => simp [splitFirst]
  | cons c cs ih =>
    unfold splitFirst
    split
    · next hc => simp [hc]
    · next hc => simp [ih, Ne.symm hc]

theorem splitLast_eq_none {sep : Char} {cs : List Char} : splitLast sep cs = none ↔ sep ∉ cs := by
  induction cs with
  | nil => simp [splitLast]
  | cons c cs ih =>
    unfold splitLast
    split
    · next a b h =>
      have : sep ∈ cs := by
        rcases Classical.em (sep ∈ cs) with hm | hm
        · exact hm
        · rw [ih.2 hm] at h; cases h
      simp [this]
    · next h =>
      have hn := ih.1 h
      split
      · next hc => simp [hc]
      · next hc => simp [hn, Ne.symm hc]

theorem splitLast_eq_some {sep : Char} {cs a b : List Char} (h : splitLast sep cs = some (a, b)) :
    cs = a ++ sep :: b ∧ sep ∉ b := by
  induction cs generalizing a with
  | nil => simp [splitLast] at h
  | cons c cs ih =>
    unfold splitLast at h
    split at h
    · next a' b' h' =>
      cases h
      obtain ⟨rfl, hn⟩ := ih h'
      exact ⟨rfl, hn⟩
    · next h' =>
      split at h
      · next hc => cases h; exact ⟨by simp [hc], splitLast_eq_none.1 h'⟩
      · cases h

theorem splitAll_ne_nil (sep : Char) (cs : List Char) : splitAll sep cs ≠ [] := by
  cases cs with
  | nil => simp [splitAll]
  | cons c cs =>
    unfold splitAll
    split
    · simp
    · split <;> simp

/-- Nothing but the separators is lost. -/
theorem intercalate_splitAll (sep : Char) (cs : List Char) :
    [sep].intercalate (splitAll sep cs) = cs := by
  induction cs with
  | nil => rfl
  | cons c cs ih =>
    obtain ⟨p, ps, h⟩ := List.exists_cons_of_ne_nil (splitAll_ne_nil sep cs)
    rw [h] at ih
    unfold splitAll
    split
    · next hc => simp [h, ih, hc, List.intercalate_cons_cons]
    · rw [h]
      cases ps with
      | nil => simpa using ih
      | cons q qs => simpa [List.intercalate_cons_cons] using ih

end SocketRelay.Text
