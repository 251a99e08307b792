import SocketRelay.Config.Error
import SocketRelay.Proofs.Route.RuleText

/-!
# The language of rules

A rule is cut at its first and its last colon (`Rule.Cut`). `Rule.Spells` says which
rules write a route, and `Rule.Refused` what is said of the others: what is asked of a
rule is asked in a fixed order, and the first thing that it does not have counts. A rule
spells a route or is refused (`Rule.spells_or_refused`), and reading it tells which
(`Rule.parse_language`).

Brackets are dropped at both ends of a host, each as often as it stands there, but only the one
in front of a host with a colon is asked for (`Rule.parse_colonHost`). So a rule may leave a
bracket open (`Rule.unclosedBracket_accepted`).
-/

namespace SocketRelay

open Net Text

/-- The text writes the port in decimal digits, with any zeros in front, after at most one plus
sign. -/
def Net.Endpoint.SpellsPort (cs : List Char) (port : UInt16) : Prop :=
  ∃ digits, (cs = digits ∨ cs = '+' :: digits) ∧ digits ≠ [] ∧
    (∀ c ∈ digits, c.isDigit = true) ∧ Nat.ofDigitChars 10 digits 0 = port.toNat

theorem Net.Endpoint.parsePort?_eq_some_iff {cs : List Char} {port : UInt16} :
    parsePort? cs = some port ↔ SpellsPort cs port := by
  unfold parsePort? SpellsPort
  rw [Option.bind_eq_some_iff]
  constructor
  · rintro ⟨n, read, fits⟩
    split at fits
    · next small =>
      cases fits
      obtain ⟨digits, text, filled, decimal, value⟩ := decimal?_eq_some_iff.mp read
      refine ⟨digits, text, filled, decimal, value.trans ?_⟩
      exact (UInt16.toNat_ofNat_of_lt' (Nat.lt_succ_of_le small)).symm
    · cases fits
  · rintro ⟨digits, text, filled, decimal, value⟩
    have small : port.toNat ≤ 65535 := Nat.le_of_lt_succ port.toNat_lt
    refine ⟨port.toNat, decimal?_eq_some_iff.mpr ⟨digits, text, filled, decimal, value⟩, ?_⟩
    rw [if_pos small, Nat.toUInt16_eq, UInt16.ofNat_toNat]

theorem Net.Endpoint.parsePort?_eq_none_iff {cs : List Char} :
    parsePort? cs = none ↔ ∀ port, ¬ SpellsPort cs port := by
  simp only [Option.eq_none_iff_forall_ne_some, ne_eq, parsePort?_eq_some_iff]

namespace Rule

variable {p : Protocol} {r : Route} {rule localPart middle remotePart host : List Char}

/-- The parts of a text before its first colon, after its last colon, and between them. -/
structure Cut (rule localPart middle remotePart : List Char) : Prop where
  whole : rule = localPart ++ ':' :: (middle ++ ':' :: remotePart)
  first : ':' ∉ localPart
  last : ':' ∉ remotePart

/-- The host is what is left of the text without the brackets around it. -/
abbrev Brackets (middle host : List Char) : Prop :=
  Stripped (· == '[') (· == ']') middle host

/-- A host with a colon comes after a bracket. -/
def Guarded (middle host : List Char) : Prop := ':' ∉ host ∨ middle.head? = some '['

/-- A rule, without blanks around it, writes a local port, a host and a remote port. -/
inductive Spells (rule : List Char) (localPort : UInt16) (host : List Char) (remotePort : UInt16) :
    Prop where
  | intro {localPart middle remotePart : List Char} (cut : Cut rule localPart middle remotePart)
    (brackets : Brackets middle host) (named : host ≠ []) (guarded : Guarded middle host)
    (localPort : Endpoint.SpellsPort localPart localPort)
    (remotePort : Endpoint.SpellsPort remotePart remotePort)

/-- What a rule, without blanks around it, is refused for. Each case has what those before it
lack. -/
inductive Refused (rule : List Char) : String → Prop where
  | fewColons (few : rule.count ':' < 2) : Refused rule "expected LOCALPORT:REMOTEIP:REMOTEPORT"
  | emptyHost {localPart middle remotePart : List Char} (cut : Cut rule localPart middle remotePart)
    (brackets : Brackets middle []) : Refused rule "remote host is empty"
  | unguarded {localPart middle remotePart host : List Char}
    (cut : Cut rule localPart middle remotePart) (brackets : Brackets middle host)
    (named : host ≠ []) (bare : ¬ Guarded middle host) :
    Refused rule "expected LOCALPORT:REMOTEIP:REMOTEPORT"
  | localPort {localPart middle remotePart host : List Char}
    (cut : Cut rule localPart middle remotePart) (brackets : Brackets middle host)
    (named : host ≠ []) (guarded : Guarded middle host)
    (other : ∀ port, ¬ Endpoint.SpellsPort localPart port) :
    Refused rule "local port is not a valid port number"
  | remotePort {localPart middle remotePart host : List Char} {localPort : UInt16}
    (cut : Cut rule localPart middle remotePart) (brackets : Brackets middle host)
    (named : host ≠ []) (guarded : Guarded middle host)
    (localPort : Endpoint.SpellsPort localPart localPort)
    (other : ∀ port, ¬ Endpoint.SpellsPort remotePart port) :
    Refused rule "remote port is not a valid port number"

theorem cut_of_colons (many : 2 ≤ rule.count ':') :
    ∃ localPart middle remotePart, Cut rule localPart middle remotePart := by
  cases first : splitFirst ':' rule with
  | none =>
    have none : rule.count ':' = 0 := List.count_eq_zero.mpr (splitFirst_eq_none.mp first)
    omega
  | some parts =>
    obtain ⟨localPart, rest⟩ := parts
    obtain ⟨rfl, absent⟩ := splitFirst_eq_some first
    cases last : splitLast ':' rest with
    | none =>
      rw [List.count_append, List.count_cons_self, List.count_eq_zero.mpr absent,
        List.count_eq_zero.mpr (splitLast_eq_none.mp last)] at many
      omega
    | some parts =>
      obtain ⟨middle, remotePart⟩ := parts
      obtain ⟨rfl, absent'⟩ := splitLast_eq_some last
      exact ⟨localPart, middle, remotePart, rfl, absent, absent'⟩

theorem spells_or_refused (rule : List Char) :
    (∃ localPort host remotePort, Spells rule localPort host remotePort) ∨
      ∃ message, Refused rule message := by
  by_cases few : rule.count ':' < 2
  · exact .inr ⟨_, .fewColons few⟩
  · obtain ⟨localPart, middle, remotePart, cut⟩ := cut_of_colons (Nat.le_of_not_lt few)
    have brackets : Brackets middle (unbracket middle) := dropEnds_eq_iff.mp rfl
    by_cases named : unbracket middle = []
    · exact .inr ⟨_, .emptyHost cut (named ▸ brackets)⟩
    by_cases guarded : Guarded middle (unbracket middle)
    · by_cases localPort : ∃ port, Endpoint.SpellsPort localPart port
      · obtain ⟨localPort, spelled⟩ := localPort
        by_cases remotePort : ∃ port, Endpoint.SpellsPort remotePart port
        · obtain ⟨remotePort, spelled'⟩ := remotePort
          exact .inl ⟨localPort, _, remotePort, cut, brackets, named, guarded, spelled, spelled'⟩
        · exact .inr ⟨_, .remotePort cut brackets named guarded spelled (not_exists.mp remotePort)⟩
      · exact .inr ⟨_, .localPort cut brackets named guarded (not_exists.mp localPort)⟩
    · exact .inr ⟨_, .unguarded cut brackets named guarded⟩

/-! ## Reading -/

theorem parseTrimmed_of_few (few : rule.count ':' < 2) : parseTrimmed p rule = .error .shape := by
  unfold parseTrimmed
  cases first : splitFirst ':' rule with
  | none => rfl
  | some parts =>
    obtain ⟨localPart, rest⟩ := parts
    obtain ⟨rfl, -⟩ := splitFirst_eq_some first
    rw [List.count_append, List.count_cons_self] at few
    have last : splitLast ':' rest = none :=
      splitLast_eq_none.mpr (List.count_eq_zero.mp (by omega))
    simp only [last]

/-- What is looked at, and in what order, once the rule is cut. -/
theorem parseTrimmed_of_cut (cut : Cut rule localPart middle remotePart)
    (brackets : Brackets middle host) : parseTrimmed p rule =
      if host = [] then .error .emptyHost
      else if ':' ∈ host ∧ middle.head? ≠ some '[' then .error .shape
      else
        match Endpoint.parsePort? localPart with
        | none => .error .localPort
        | some localPort =>
          match Endpoint.parsePort? remotePart with
          | none => .error .remotePort
          | some remotePort =>
            .ok ⟨p, .unspecified, localPort, String.ofList host, remotePort⟩ := by
  obtain ⟨rfl, first, last⟩ := cut
  have same : unbracket middle = host := dropEnds_eq_iff.mpr brackets
  rw [parseTrimmed, splitFirst_append first]
  dsimp only
  rw [splitLast_append _ last]
  dsimp only
  rw [same]
  by_cases named : host = []
  · rw [if_pos named, if_pos named]
  · -- what comes after the first colon begins as the host does
    have filled : middle ≠ [] := by
      rintro rfl
      exact named same.symm
    have begins : (middle ++ ':' :: remotePart).head? = middle.head? :=
      List.head?_append_of_ne_nil _ filled
    generalize (middle ++ ':' :: remotePart).head? = head at begins ⊢
    cases begins
    rfl

theorem not_bare (guarded : Guarded middle host) : ¬ (':' ∈ host ∧ middle.head? ≠ some '[') := by
  rintro ⟨colon, bare⟩
  exact guarded.elim (absurd colon) bare

theorem Spells.parseTrimmed {localPort remotePort : UInt16}
    (h : Spells rule localPort host remotePort) : parseTrimmed p rule =
      .ok ⟨p, .unspecified, localPort, String.ofList host, remotePort⟩ := by
  obtain ⟨cut, brackets, named, guarded, spelled, spelled'⟩ := h
  rw [parseTrimmed_of_cut cut brackets, if_neg named, if_neg (not_bare guarded),
    Endpoint.parsePort?_eq_some_iff.mpr spelled]
  dsimp only
  rw [Endpoint.parsePort?_eq_some_iff.mpr spelled']

theorem Refused.parseTrimmed {message : String} (h : Refused rule message) :
    ∃ fault, parseTrimmed p rule = .error fault ∧ fault.message = message := by
  cases h with
  | fewColons few => exact ⟨.shape, parseTrimmed_of_few few, rfl⟩
  | emptyHost cut brackets =>
    refine ⟨.emptyHost, ?_, rfl⟩
    rw [parseTrimmed_of_cut cut brackets, if_pos rfl]
  | unguarded cut brackets named bare =>
    refine ⟨.shape, ?_, rfl⟩
    rw [parseTrimmed_of_cut cut brackets, if_neg named, if_pos]
    exact ⟨not_not.mp fun plain => bare (.inl plain), fun bracket => bare (.inr bracket)⟩
  | localPort cut brackets named guarded other =>
    refine ⟨.localPort, ?_, rfl⟩
    rw [parseTrimmed_of_cut cut brackets, if_neg named, if_neg (not_bare guarded),
      Endpoint.parsePort?_eq_none_iff.mpr other]
  | remotePort cut brackets named guarded spelled other =>
    refine ⟨.remotePort, ?_, rfl⟩
    rw [parseTrimmed_of_cut cut brackets, if_neg named, if_neg (not_bare guarded),
      Endpoint.parsePort?_eq_some_iff.mpr spelled]
    dsimp only
    rw [Endpoint.parsePort?_eq_none_iff.mpr other]

theorem parseTrimmed_eq_ok_iff : parseTrimmed p rule = .ok r ↔
    ∃ localPort host remotePort, Spells rule localPort host remotePort ∧
      r = ⟨p, .unspecified, localPort, String.ofList host, remotePort⟩ := by
  constructor
  · intro read
    rcases spells_or_refused rule with ⟨localPort, host, remotePort, spells⟩ | ⟨message, refused⟩
    · rw [spells.parseTrimmed] at read
      cases read
      exact ⟨localPort, host, remotePort, spells, rfl⟩
    · obtain ⟨fault, error, -⟩ := refused.parseTrimmed (p := p)
      rw [error] at read
      cases read
  · rintro ⟨localPort, host, remotePort, spells, rfl⟩
    exact spells.parseTrimmed

theorem parseTrimmed_eq_error_iff {message : String} :
    (∃ fault, parseTrimmed p rule = .error fault ∧ fault.message = message) ↔
      Refused rule message := by
  constructor
  · rintro ⟨fault, error, rfl⟩
    rcases spells_or_refused rule with ⟨localPort, host, remotePort, spells⟩ | ⟨message, refused⟩
    · rw [spells.parseTrimmed] at error
      cases error
    · obtain ⟨fault', error', rfl⟩ := refused.parseTrimmed (p := p)
      rw [error] at error'
      cases error'
      exact refused
  · exact Refused.parseTrimmed

/-- Which texts are read as rules, as which routes, and what is said of those that are refused. -/
theorem parse_language (p : Protocol) (text : String) :
    ∃ rule, Stripped isBlank isBlank text.toList rule ∧
      (∀ r, (parse p text).mapError ConfigError.ofRule = .ok r ↔
        ∃ localPort host remotePort, Spells rule localPort host remotePort ∧
          r = ⟨p, .v4 ⟨0, 0, 0, 0⟩, localPort, String.ofList host, remotePort⟩) ∧
      ∀ e, (parse p text).mapError ConfigError.ofRule = .error e ↔
        ∃ message, Refused rule message ∧ e = .badRule (String.ofList rule) message := by
  refine ⟨trim text.toList, dropEnds_eq_iff.mp rfl, fun r => ?_, fun e => ?_⟩
  · refine .trans ?_ parseTrimmed_eq_ok_iff
    unfold parse parseChars
    cases parseTrimmed p (trim text.toList) with
    | error fault => exact iff_of_false nofun nofun
    | ok route => simp only [Except.mapError, Except.ok.injEq]
  · simp only [← parseTrimmed_eq_error_iff (p := p)]
    unfold parse parseChars
    cases parseTrimmed p (trim text.toList) with
    | error fault =>
      constructor
      · intro error
        cases error
        exact ⟨_, ⟨fault, rfl, rfl⟩, rfl⟩
      · rintro ⟨_, ⟨fault', same, rfl⟩, rfl⟩
        cases same
        rfl
    | ok route => exact iff_of_false nofun fun ⟨_, ⟨_, same, _⟩, _⟩ => nomatch same

/-! ## Hosts with a colon -/

theorem brackets_iff : Brackets middle host ↔
    (∃ opening closing, middle = List.replicate opening '[' ++ host ++ List.replicate closing ']') ∧
      host.head? ≠ some '[' ∧ host.getLast? ≠ some ']' := by
  constructor
  · rintro ⟨⟨front, back, whole, opening, closing⟩, head, last⟩
    have opened : front = List.replicate front.length '[' :=
      List.eq_replicate_of_mem fun c mem => beq_iff_eq.mp (opening c mem)
    have closed : back = List.replicate back.length ']' :=
      List.eq_replicate_of_mem fun c mem => beq_iff_eq.mp (closing c mem)
    refine ⟨⟨front.length, back.length, by rw [← opened, ← closed, whole]⟩, ?_, ?_⟩
    · exact fun bracket => Bool.eq_false_iff.mp (head '[' bracket) rfl
    · exact fun bracket => Bool.eq_false_iff.mp (last ']' bracket) rfl
  · rintro ⟨⟨opening, closing, whole⟩, head, last⟩
    refine ⟨⟨_, _, whole, ?_, ?_⟩, noBracket head, noBracket last⟩
    · exact fun c mem => beq_iff_eq.mpr (List.eq_of_mem_replicate mem)
    · exact fun c mem => beq_iff_eq.mpr (List.eq_of_mem_replicate mem)

/-- Such a host needs a bracket in front of it, and none behind it. -/
theorem guarded_iff {opening closing : Nat} (colon : ':' ∈ host) (head : host.head? ≠ some '[') :
    Guarded (List.replicate opening '[' ++ host ++ List.replicate closing ']') host ↔
      0 < opening := by
  have first : (host ++ List.replicate closing ']').head? = host.head? :=
    List.head?_append_of_ne_nil _ (List.ne_nil_of_mem colon)
  unfold Guarded
  rw [or_iff_right (not_not.mpr colon), List.append_assoc]
  cases opening with
  | zero =>
    rw [List.replicate_zero, List.nil_append, first]
    exact iff_of_false head (Nat.lt_irrefl 0)
  | succ opening => exact iff_of_true rfl (Nat.succ_pos opening)

/-- A rule whose host has a colon is read with any number of brackets in front of the host but
none, and any number behind it. -/
theorem parse_colonHost (p : Protocol) (text : String) (r : Route)
    (colon : ':' ∈ r.remoteHost.toList) : parse p text = .ok r ↔
      r.protocol = p ∧ r.bindAddress = .v4 ⟨0, 0, 0, 0⟩ ∧
      r.remoteHost.toList.head? ≠ some '[' ∧ r.remoteHost.toList.getLast? ≠ some ']' ∧
      ∃ rule localPart remotePart opening closing, 0 < opening ∧
        Stripped isBlank isBlank text.toList rule ∧
        Cut rule localPart
          (List.replicate opening '[' ++ r.remoteHost.toList ++ List.replicate closing ']')
          remotePart ∧
        Endpoint.SpellsPort localPart r.localPort ∧
        Endpoint.SpellsPort remotePart r.remotePort := by
  unfold parse
  rw [parseChars_eq_ok, parseTrimmed_eq_ok_iff]
  constructor
  · rintro ⟨localPort, host, remotePort, ⟨cut, brackets, -, guarded, spelled, spelled'⟩, rfl⟩
    rw [String.toList_ofList] at colon ⊢
    obtain ⟨⟨opening, closing, rfl⟩, head, last⟩ := brackets_iff.mp brackets
    exact ⟨rfl, rfl, head, last, _, _, _, opening, closing, (guarded_iff colon head).mp guarded,
      dropEnds_eq_iff.mp rfl, cut, spelled, spelled'⟩
  · rintro ⟨rfl, bind, head, last, rule, localPart, remotePart, opening, closing, opened, trimmed,
      cut, spelled, spelled'⟩
    rw [show trim text.toList = rule from dropEnds_eq_iff.mpr trimmed]
    refine ⟨_, _, _, ⟨cut, brackets_iff.mpr ⟨⟨opening, closing, rfl⟩, head, last⟩,
      List.ne_nil_of_mem colon, (guarded_iff colon head).mpr opened, spelled, spelled'⟩, ?_⟩
    rw [String.ofList_toList, show Net.IpAddress.unspecified = .v4 ⟨0, 0, 0, 0⟩ from rfl, ← bind]

theorem parse_colonHost_doubled : ':' ∈ "2001:db8::1".toList ∧
    parse .udp " 080:[[2001:db8::1]:+53" = .ok ⟨.udp, .unspecified, 80, "2001:db8::1", 53⟩ := by
  have colon : ':' ∈ "2001:db8::1".toList := by decide
  refine ⟨colon, (parse_colonHost .udp _ ⟨.udp, .unspecified, 80, "2001:db8::1", 53⟩ colon).mpr
    ⟨rfl, rfl, by decide, by decide, "080:[[2001:db8::1]:+53".toList, "080".toList, "+53".toList, 2,
      1, by decide, ?_, ?_, ?_, ?_⟩⟩
  · exact dropEnds_eq_iff.mp (by decide +kernel)
  · exact ⟨by decide, by decide, by decide⟩
  · exact Endpoint.parsePort?_eq_some_iff.mp (by decide +kernel)
  · exact Endpoint.parsePort?_eq_some_iff.mp (by decide +kernel)

/-- The bracket need not be closed. Then all that comes after it is itself an address. -/
theorem unclosedBracket_accepted :
    parse .udp "53:[::1:53" = .ok ⟨.udp, .unspecified, 53, "::1", 53⟩ ∧
      Cut "53:[::1:53".toList "53".toList "[::1".toList "53".toList ∧
      "[::1" ≠ "[" ++ "::1" ++ "]" ∧ (IpAddress.parse? "::1:53").isSome = true :=
  ⟨by decide +kernel, ⟨by decide, by decide, by decide⟩, by decide, by decide +kernel⟩

end Rule

end SocketRelay
