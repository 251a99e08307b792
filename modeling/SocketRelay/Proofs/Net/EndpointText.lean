import SocketRelay.Proofs.Net.IpText

/-!
# The texts of endpoints read back

The text of an endpoint leaves nothing out but the flow (`Endpoint.parse?_text`),
so two endpoints have one text if and only if they differ at most in their flow
(`Endpoint.text_eq_text_iff`).
-/

namespace SocketRelay.Net.Endpoint

open Text

def withoutFlow : Endpoint → Endpoint
  | v4 ip p => v4 ip p
  | v6 ip p _ s => v6 ip p 0 s

theorem text_withoutFlow (e : Endpoint) : e.withoutFlow.text = e.text := by
  cases e <;> rfl

theorem readPort_portChars (p : UInt16) {rest : List Char} (stop : NoDigit 10 rest) :
    readPort (':' :: (portChars p ++ rest)) = some (p, rest) := by
  have lt := p.toNat_lt
  have digits : portFormat.read (portChars p ++ rest) = some (p.toNat, rest) :=
    NumberFormat.read_toDigits (f := portFormat) (by decide) (by decide) (Nat.le_of_lt_succ lt)
      (fun _ h => by cases h) stop
  simp only [readPort, readChar, if_true, Option.bind_eq_bind, Option.bind_some, digits,
    Option.pure_def, Nat.toUInt16_eq, UInt16.ofNat_toNat]

theorem readScope_scopeChars (s : UInt32) {rest : List Char} (stop : NoDigit 10 (']' :: rest)) :
    readScope (scopeChars s ++ ']' :: rest) = (s, ']' :: rest) := by
  unfold scopeChars
  split
  · next zero => simp [readScope, readChar, zero]
  · have lt := s.toNat_lt
    have digits : scopeFormat.read (Nat.toDigits 10 s.toNat ++ ']' :: rest) =
        some (s.toNat, ']' :: rest) :=
      NumberFormat.read_toDigits (f := scopeFormat) (by decide) (by decide)
        (Nat.le_of_lt_succ lt) (fun _ h => by cases h) stop
    simp only [readScope, List.cons_append, readChar, if_true, Option.bind_some, digits,
      Nat.toUInt32_eq, UInt32.ofNat_toNat]

/-- An address is followed by its scope or by the closing bracket. -/
theorem stops_scopeChars (s : UInt32) (rest : List Char) :
    IPv6.Stops (scopeChars s ++ ']' :: rest) := by
  intro c h
  unfold scopeChars at h
  split at h
  · cases h; decide
  · cases h; decide

/-- What begins with a bracket is not an IPv4 address. -/
theorem readV4_bracket (cs : List Char) : IPv4.read ('[' :: cs) = none := by
  refine IPv4.read_eq_none ?_
  rw [List.dropWhile_cons_of_neg (by decide)]
  simp

theorem read_chars (e : Endpoint) {rest : List Char} (stop : NoDigit 10 rest) :
    Endpoint.read (e.chars ++ rest) = some (e.withoutFlow, rest) := by
  have colon (cs : List Char) : NoDigit 10 (':' :: cs) := by intro c h; cases h; decide
  have bracket (cs : List Char) : NoDigit 10 (']' :: cs) := by intro c h; cases h; decide
  cases e with
  | v4 ip p =>
    simp only [Endpoint.read, readV4, chars, List.append_assoc, List.cons_append,
      IPv4.read_chars ip (colon _), readPort_portChars p stop, Option.bind_eq_bind,
      Option.bind_some, Option.pure_def, withoutFlow]
  | v6 ip p flow s =>
    simp only [Endpoint.read, readV4, readV6, chars, List.append_assoc, List.cons_append,
      readV4_bracket, Option.bind_eq_bind, Option.bind_none, readChar, if_true, Option.bind_some,
      IPv6.read_chars ip (stops_scopeChars s _), readScope_scopeChars s (bracket _),
      readPort_portChars p stop, Option.pure_def, withoutFlow]

theorem parse?_text (e : Endpoint) : parse? e.text = some e.withoutFlow := by
  have stop : NoDigit 10 [] := fun _ h => by cases h
  have whole := read_chars e stop
  rw [List.append_nil] at whole
  unfold parse?
  rw [text, String.toList_ofList, whole]

theorem text_eq_text_iff {a b : Endpoint} : a.text = b.text ↔ a.withoutFlow = b.withoutFlow := by
  constructor
  · intro h
    have same := parse?_text a
    rw [h, parse?_text] at same
    exact (Option.some.inj same).symm
  · intro h
    rw [← text_withoutFlow a, h, text_withoutFlow]

end SocketRelay.Net.Endpoint
