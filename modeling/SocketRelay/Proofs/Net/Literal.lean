import SocketRelay.Net.Resolve
import SocketRelay.Proofs.Net.EndpointText

/-!
# Literals

A host may be the text of an address in any of its spellings, so it is not enough
that what is written for an address reads back. `EndsAt x read` says that a reader
takes from a text what it takes from the part before `x`. The readers of addresses
end at the characters that addresses are set in, so a whole text that reads as an
address reads as that address also with a port behind it, in brackets if there are
colons in it (`Endpoint.parse?_v4`, `Endpoint.parse?_v6`). Such a text is not looked
up (`resolve_of_parse?`).
-/

namespace SocketRelay

namespace Text

variable {α β : Type} {x : Char} {cs : List Char}

/-- What is read in front of `x` is what is read if `x` is not there, and `x` is left with what
follows it. -/
def EndsAt (x : Char) (read : Reader α) : Prop :=
  ∀ cs rest, read (cs ++ x :: rest) = (read cs).map fun p => (p.1, p.2 ++ x :: rest)

namespace EndsAt

theorem pure (a : α) : EndsAt x fun cs => some (a, cs) := fun _ _ => rfl

theorem bind {read : Reader α} {next : α → Reader β} (h : EndsAt x read)
    (h' : ∀ a, EndsAt x (next a)) : EndsAt x fun cs => (read cs).bind fun p => next p.1 p.2 := by
  intro cs rest
  dsimp only
  rw [h cs rest]
  cases read cs with
  | none => rfl
  | some p => exact h' p.1 p.2 rest

/-- A text that is read to its end has no `x`. -/
theorem notMem {read : Reader α} (h : EndsAt x read) {a : α} (whole : read cs = some (a, [])) :
    x ∉ cs := by
  intro mem
  obtain ⟨before, after, rfl⟩ := List.append_of_mem mem
  rw [h] at whole
  obtain ⟨p, -, same⟩ := Option.map_eq_some_iff.mp whole
  exact List.append_ne_nil_of_right_ne_nil _ (List.cons_ne_nil _ _) (Prod.mk.inj same).2

theorem readChar {c : Char} (other : x ≠ c) : EndsAt x (readChar c) := by
  intro cs rest
  cases cs with
  | nil => simp [Text.readChar, other]
  | cons d cs =>
    simp only [Text.readChar, List.cons_append]
    split <;> rfl

theorem span {p : Char → Bool} (stop : p x = false) (cs rest : List Char) :
    (cs ++ x :: rest).takeWhile p = cs.takeWhile p ∧
      (cs ++ x :: rest).dropWhile p = cs.dropWhile p ++ x :: rest := by
  induction cs with
  | nil => simp [stop]
  | cons c cs ih =>
    cases h : p c with
    | false => simp [h]
    | true => simp [h, ih]

theorem number {f : NumberFormat} (noDigit : isDigitIn f.base x = false) : EndsAt x f.read := by
  intro cs rest
  obtain ⟨taken, dropped⟩ := span noDigit cs rest
  simp only [NumberFormat.read, taken, dropped]
  split <;> rfl

end EndsAt

end Text

namespace Net

open Text

variable {x : Char} {cs rest : List Char}

theorem IPv4.read_endsAt (noDigit : isDigitIn 10 x = false) (noDot : x ≠ '.') :
    EndsAt x IPv4.read := by
  have byte : EndsAt x byteFormat.read := .number noDigit
  have dot : EndsAt x (readChar '.') := .readChar noDot
  exact byte.bind fun a => dot.bind fun _ => byte.bind fun b => dot.bind fun _ =>
    byte.bind fun c => dot.bind fun _ => byte.bind fun d =>
      .pure (⟨a.toUInt8, b.toUInt8, c.toUInt8, d.toUInt8⟩ : IPv4)

/-! ## IPv6 -/

namespace IPv6

structure IsForeign (x : Char) : Prop where
  noDigit : isDigitIn 16 x = false
  noDot : x ≠ '.'
  noColon : x ≠ ':'

theorem IsForeign.noDecimal (foreign : IsForeign x) : isDigitIn 10 x = false := by
  cases decimal : isDigitIn 10 x with
  | false => rfl
  | true => rw [← isDigitIn_of_decimal decimal]; exact foreign.noDigit

theorem readGroups_append (foreign : IsForeign x) (n : Nat) (first : Bool) (cs rest : List Char) :
    readGroups n first (cs ++ x :: rest) =
      { readGroups n first cs with rest := (readGroups n first cs).rest ++ x :: rest } := by
  have v4 := IPv4.read_endsAt foreign.noDecimal foreign.noDot
  have group : EndsAt x groupFormat.read := .number foreign.noDigit
  have colon : EndsAt x (readChar ':') := .readChar foreign.noColon
  have ends {α : Type} {read : Reader α} (h : EndsAt x read) (here : Option (List Char)) :
      (here.map (· ++ x :: rest)).bind read =
        (here.bind read).map fun p => (p.1, p.2 ++ x :: rest) := by
    cases here with
    | none => rfl
    | some cs => exact h cs rest
  induction n generalizing first cs with
  | zero => rfl
  | succ n ih =>
    have start : (if first then some (cs ++ x :: rest)
        else (readChar ':' (cs ++ x :: rest)).map (·.2)) =
        (if first then some cs else (readChar ':' cs).map (·.2)).map (· ++ x :: rest) := by
      cases first with
      | true => rfl
      | false => simp [colon cs rest, Function.comp_def]
    simp only [readGroups, start]
    generalize (if first = true then some cs else (readChar ':' cs).map (·.2)) = here
    -- Dotted decimal comes first, and only where there is room for it.
    have dotted : (if n = 0 then none else (here.map (· ++ x :: rest)).bind IPv4.read) =
        (if n = 0 then none else here.bind IPv4.read).map fun p => (p.1, p.2 ++ x :: rest) := by
      rw [ends v4]
      split <;> rfl
    rw [dotted, ends group]
    cases (if n = 0 then none else here.bind IPv4.read) with
    | some p => rfl
    | none =>
      cases here.bind groupFormat.read with
      | none => rfl
      | some p => simp only [Option.map_none, Option.map_some, ih]

theorem read_endsAt (foreign : IsForeign x) : EndsAt x IPv6.read := by
  have colon : EndsAt x (readChar ':') := .readChar foreign.noColon
  have found (groups : List UInt16) (cs rest : List Char) :
      ((ofList? groups).bind fun ip => some (ip, cs ++ x :: rest)) =
        ((ofList? groups).bind fun ip => some (ip, cs)).map fun p => (p.1, p.2 ++ x :: rest) := by
    cases ofList? groups <;> rfl
  have tail (head : List UInt16) : EndsAt x fun cs =>
      let tail := readGroups (7 - head.length) true cs
      (ofList? (head ++ List.replicate (8 - head.length - tail.groups.length) 0 ++
        tail.groups)).bind fun ip => some (ip, tail.rest) := by
    intro cs rest
    simp only [readGroups_append foreign, found]
  intro cs rest
  simp only [IPv6.read, readGroups_append foreign]
  split
  · exact found _ _ _
  · split
    · rfl
    · exact (colon.bind fun _ => colon.bind fun _ => tail (readGroups 8 true cs).groups) _ rest

/-- Without a colon there is one group at most, or dotted decimal. -/
theorem readGroups_of_noColon (absent : ':' ∉ cs) (n : Nat) :
    (readGroups n true cs).groups.length ≤ 2 ∧
      ((readGroups n true cs).dotted = false → ':' ∉ (readGroups n true cs).rest) := by
  cases n with
  | zero => exact ⟨Nat.zero_le _, fun _ => absent⟩
  | succ n =>
    simp only [readGroups, if_true, Option.bind_some]
    split
    · exact ⟨Nat.le_refl _, fun h => by cases h⟩
    · split
      · next g rest group =>
        have none : ':' ∉ rest := by
          rw [NumberFormat.rest_of_read group]
          exact fun mem => absent ((List.dropWhile_suffix _).subset mem)
        have stop : readGroups n false rest = ⟨[], false, rest⟩ :=
          readGroups_stop n fun _ same => absurd (same ▸ List.mem_cons_self) none
        rw [stop]
        exact ⟨Nat.le_succ 1, fun _ => none⟩
      · exact ⟨Nat.zero_le _, fun _ => absent⟩

theorem colon_mem_of_read {ip : IPv6} (h : IPv6.read cs = some (ip, rest)) : ':' ∈ cs := by
  refine Decidable.byContradiction fun absent => ?_
  obtain ⟨few, none⟩ := readGroups_of_noColon absent 8
  simp only [IPv6.read] at h
  rw [if_neg (by omega)] at h
  split at h
  · cases h
  · next plain =>
    cases colon : readChar ':' (readGroups 8 true cs).rest with
    | none => rw [colon] at h; cases h
    | some p =>
      have here := readChar_eq_some.mp colon
      exact none (by simpa using plain) (here ▸ List.mem_cons_self)

theorem readV4_groupsChars (gs : List UInt16) {rest : List Char} (stop : EndsGroup rest) :
    IPv4.read (groupsChars gs ++ rest) = none := by
  cases gs with
  | nil => exact readV4_of_endsGroup stop
  | cons g gs =>
    rw [groupsChars_cons, List.append_assoc]
    exact readV4_groupChars g (endsGroup_colonChars gs stop)

/-- What is written for an IPv6 address is not an IPv4 address. -/
theorem readV4_chars (ip : IPv6) : IPv4.read ip.chars = none := by
  unfold chars
  split
  · exact readV4_of_endsGroup (endsGroup_colon _)
  · dsimp only
    split
    · rw [List.append_assoc]
      exact readV4_groupsChars _ (endsGroup_colon _)
    · rw [← List.append_nil (groupsChars _)]
      exact readV4_groupsChars _ fun _ h => by cases h

end IPv6

/-! ## Addresses of both families -/

namespace IpAddress

theorem parse?_eq_some {s : String} {ip : IpAddress} (h : parse? s = some ip) :
    (∃ v4, ip = .v4 v4 ∧ IPv4.read s.toList = some (v4, [])) ∨
      ∃ v6, ip = .v6 v6 ∧ IPv6.read s.toList = some (v6, []) := by
  unfold parse? at h
  split at h
  · next whole =>
    cases h
    unfold read at whole
    split at whole
    · next v4 =>
      cases whole
      exact .inl ⟨_, rfl, v4⟩
    · obtain ⟨⟨v6, rest⟩, here, same⟩ := Option.map_eq_some_iff.mp whole
      cases same
      exact .inr ⟨v6, rfl, here⟩
  · cases h

theorem read_chars (ip : IpAddress) : IpAddress.read ip.chars = some (ip, []) := by
  unfold IpAddress.read
  cases ip with
  | v4 ip =>
    have whole : IPv4.read (ip.chars ++ []) = some (ip, []) :=
      IPv4.read_chars ip fun _ h => by cases h
    rw [List.append_nil] at whole
    rw [chars, whole]
  | v6 ip =>
    have whole : IPv6.read (ip.chars ++ []) = some (ip, []) :=
      IPv6.read_chars ip fun _ h => by cases h
    rw [List.append_nil] at whole
    rw [chars, IPv6.readV4_chars, whole]
    rfl

theorem parse?_text (ip : IpAddress) : parse? ip.text = some ip := by
  unfold parse?
  rw [text, String.toList_ofList, read_chars]

end IpAddress

/-! ## Ports behind addresses -/

namespace Endpoint

theorem parse?_v4 {host : List Char} {ip : IPv4} (whole : IPv4.read host = some (ip, []))
    (p : UInt16) : parse? (String.ofList (host ++ ':' :: portChars p)) = some (.v4 ip p) := by
  have address := IPv4.read_endsAt (x := ':') (by decide) (by decide) host (portChars p)
  have port : readPort (':' :: portChars p ++ []) = some (p, []) :=
    readPort_portChars p fun _ h => by cases h
  rw [whole] at address
  rw [List.append_nil] at port
  simp only [parse?, String.toList_ofList, Endpoint.read, readV4, address, Option.map_some,
    List.nil_append, port, Option.bind_eq_bind, Option.bind_some, Option.pure_def]

theorem parse?_v6 {host : List Char} {ip : IPv6} (whole : IPv6.read host = some (ip, []))
    (p : UInt16) :
    parse? (String.ofList ('[' :: host ++ ']' :: ':' :: portChars p)) = some (.v6 ip p 0 0) := by
  have address := IPv6.read_endsAt (x := ']') ⟨by decide, by decide, by decide⟩ host
    (':' :: portChars p)
  have scope : readScope (']' :: ':' :: portChars p) = (0, ']' :: ':' :: portChars p) := rfl
  have port : readPort (':' :: portChars p ++ []) = some (p, []) :=
    readPort_portChars p fun _ h => by cases h
  rw [whole] at address
  rw [List.append_nil] at port
  simp only [parse?, String.toList_ofList, Endpoint.read, readV4, readV6, List.cons_append,
    readV4_bracket, Option.bind_none, readChar, if_true, address, Option.map_some, List.nil_append,
    scope, port, Option.bind_eq_bind, Option.bind_some, Option.pure_def]

end Endpoint

theorem AddressText.parse_of_parse? {s : String} {e : Endpoint}
    (literal : Endpoint.parse? s = some e) : AddressText.parse s = .ok (.literal e) := by
  unfold AddressText.parse
  rw [literal]

theorem resolve_of_parse? {s : String} {e : Endpoint} (literal : Endpoint.parse? s = some e)
    (d : Directory) : resolve d s = .ok [e] := by
  unfold resolve
  rw [AddressText.parse_of_parse? literal]
  rfl

end Net

end SocketRelay
