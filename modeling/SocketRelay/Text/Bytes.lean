/-!
# Texts in bytes

The length of a text in UTF-8, and cutting a text after a number of bytes. A
text is cut only where a character ends.
-/

namespace SocketRelay.Text

/-- The length in bytes. -/
def byteLength : List Char → Nat
  | [] => 0
  | c :: cs => c.utf8Size + byteLength cs

/-- Cuts a text after some bytes, if a character ends there. -/
def cutBytes : Nat → List Char → Option (List Char × List Char)
  | 0, cs => some ([], cs)
  | _, [] => none
  | n, c :: cs =>
    if c.utf8Size ≤ n then (cutBytes (n - c.utf8Size) cs).map fun (a, b) => (c :: a, b) else none

@[simp] theorem byteLength_nil : byteLength [] = 0 := rfl

@[simp] theorem byteLength_cons (c : Char) (cs : List Char) :
    byteLength (c :: cs) = c.utf8Size + byteLength cs := rfl

/-- The parts are the whole, and the first has the length that was asked for. -/
theorem cutBytes_eq_some {n : Nat} {cs a b : List Char} (h : cutBytes n cs = some (a, b)) :
    cs = a ++ b ∧ byteLength a = n := by
  fun_induction cutBytes n cs generalizing a with
  | case1 cs => cases h; simp
  | case2 => cases h
  | case3 n c cs _ hc ih =>
    obtain ⟨⟨a', b'⟩, h', e⟩ := Option.map_eq_some_iff.1 h
    cases e
    obtain ⟨rfl, hn⟩ := ih h'
    exact ⟨rfl, by simp [hn]; omega⟩
  | case4 => cases h

end SocketRelay.Text
