import SocketRelay.Proofs.Text.Digits
import SocketRelay.Proofs.Text.Pieces
import SocketRelay.Route.Rule

/-!
# Rules written and read

A route is written as its local port, a colon and its target. `Route.IsWritable`
says which routes a rule can write: those whose host has no comma and no bracket
at an end where reading would drop it. Reading gives only such routes
(`Rule.isWritable_of_parseChars`), and reads each of them back from its rule
(`Rule.parseChars_charsOf`), so reading a list and writing it are inverse to each
other (`Rule.parseList_listText`).
-/

namespace SocketRelay

open Net Text

/-- The characters of a port are digits. -/
theorem Net.Endpoint.isDigit_of_mem_portChars {p : UInt16} {c : Char} (h : c ∈ portChars p) :
    c.isDigit = true :=
  Nat.isDigit_of_mem_toDigits (by decide) (by decide) h

theorem Net.Endpoint.notMem_portChars {c : Char} (other : c.isDigit = false) (p : UInt16) :
    c ∉ portChars p := fun h => by
  rw [isDigit_of_mem_portChars h] at other
  cases other

theorem Net.Endpoint.portChars_ne_nil (p : UInt16) : portChars p ≠ [] := Nat.toDigits_ne_nil

theorem Net.Endpoint.parsePort?_portChars (p : UInt16) : parsePort? (portChars p) = some p := by
  have fits : p.toNat ≤ 65535 := Nat.le_of_lt_succ p.toNat_lt
  rw [parsePort?, portChars, decimal?_toDigits, Option.bind_some, if_pos fits]
  simp

theorem Text.isBlank_of_isDigit {c : Char} (h : c.isDigit = true) : isBlank c = false := by
  simp only [Char.isDigit, Bool.and_eq_true, decide_eq_true_eq] at h
  have low : 48 ≤ c.toNat := h.1
  have high : c.toNat ≤ 57 := h.2
  simp [isBlank]
  omega

/-- A route of the protocol that a rule can write. -/
structure Route.IsWritable (p : Protocol) (r : Route) : Prop where
  protocol : r.protocol = p
  bindAddress : r.bindAddress = .unspecified
  nonempty : r.remoteHost ≠ ""
  comma : ',' ∉ r.remoteHost.toList
  opening : r.remoteHost.toList.head? ≠ some '['
  closing : r.remoteHost.toList.getLast? ≠ some ']'

namespace Rule

variable {p : Protocol} {r : Route} {cs : List Char}

/-! ## One rule -/

theorem noBracket {bracket : Char} {end? : Option Char} (h : end? ≠ some bracket) :
    ∀ c ∈ end?, (c == bracket) = false := fun _ hc =>
  beq_eq_false_iff_ne.mpr fun same => h (same ▸ hc)

/-- The brackets that a host gets are those that reading drops. -/
theorem unbracket_hostChars {host : List Char} (first : host.head? ≠ some '[')
    (last : host.getLast? ≠ some ']') : unbracket (Route.hostChars host) = host := by
  have dropped : dropEndWhile (· == ']') host = host := dropEndWhile_eq_self (noBracket last)
  unfold Route.hostChars
  split
  · next colon =>
    have nonempty : host ≠ [] := List.ne_nil_of_mem colon.1
    have kept : (host ++ [']']).dropWhile (· == '[') = host ++ [']'] := by
      refine dropWhile_eq_self (noBracket ?_)
      rwa [List.head?_append_of_ne_nil _ nonempty]
    calc unbracket ('[' :: host ++ [']'])
        = dropEndWhile (· == ']') ((host ++ [']']).dropWhile (· == '[')) := rfl
      _ = dropEndWhile (· == ']') host := by
          rw [kept, dropEndWhile_eq_rdropWhile, List.rdropWhile_concat_pos _ _ _ rfl]
          rfl
      _ = host := dropped
  · exact dropEnds_eq_self (noBracket first) (noBracket last)

theorem head?_hostChars {host : List Char} (colon : ':' ∈ host) :
    (Route.hostChars host).head? = some '[' := by
  unfold Route.hostChars
  split
  · rfl
  · next plain =>
    by_contra other
    exact plain ⟨colon, other⟩

theorem parseTrimmed_charsOf (h : r.IsWritable p) : parseTrimmed p (charsOf r) = .ok r := by
  have noColon (port : UInt16) : ':' ∉ Endpoint.portChars port := Endpoint.notMem_portChars rfl port
  have host : unbracket (Route.hostChars r.remoteHost.toList) = r.remoteHost.toList :=
    unbracket_hostChars h.opening h.closing
  have nonempty : r.remoteHost.toList ≠ [] := mt String.toList_eq_nil_iff.mp h.nonempty
  have bracketed : ¬ (':' ∈ r.remoteHost.toList ∧ r.targetChars.head? ≠ some '[') := by
    rintro ⟨colon, bare⟩
    rw [Route.targetChars, List.head?_append, head?_hostChars colon] at bare
    exact bare rfl
  rw [parseTrimmed, charsOf, splitFirst_append (noColon _)]
  dsimp only
  rw [Route.targetChars, splitLast_append _ (noColon _)]
  dsimp only
  rw [← Route.targetChars, host, if_neg nonempty, if_neg bracketed, Endpoint.parsePort?_portChars]
  dsimp only
  rw [Endpoint.parsePort?_portChars, String.ofList_toList, ← h.protocol, ← h.bindAddress]

theorem trim_charsOf (r : Route) : trim (charsOf r) = charsOf r := by
  refine dropEnds_eq_self (fun c hc => ?_) fun c hc => ?_
  · refine isBlank_of_isDigit (Endpoint.isDigit_of_mem_portChars (p := r.localPort) ?_)
    rw [charsOf, List.head?_append_of_ne_nil _ (Endpoint.portChars_ne_nil _)] at hc
    exact List.mem_of_mem_head? hc
  · refine isBlank_of_isDigit (Endpoint.isDigit_of_mem_portChars (p := r.remotePort) ?_)
    have parts : charsOf r =
        (Endpoint.portChars r.localPort ++ ':' :: Route.hostChars r.remoteHost.toList ++ [':']) ++
          Endpoint.portChars r.remotePort := by
      simp [charsOf, Route.targetChars]
    rw [parts, List.getLast?_append_of_ne_nil _ (Endpoint.portChars_ne_nil _)] at hc
    exact List.mem_of_mem_getLast? hc

theorem parseChars_charsOf (h : r.IsWritable p) : parseChars p (charsOf r) = .ok r := by
  rw [parseChars, trim_charsOf, parseTrimmed_charsOf h]
  rfl

/-- What a rule that was read consists of. -/
theorem parseTrimmed_eq_ok (h : parseTrimmed p cs = .ok r) :
    ∃ localPart middle remotePart localPort remotePort,
      cs = localPart ++ ':' :: (middle ++ ':' :: remotePart) ∧ unbracket middle ≠ [] ∧
      Endpoint.parsePort? localPart = some localPort ∧
      Endpoint.parsePort? remotePart = some remotePort ∧
      r = ⟨p, .unspecified, localPort, String.ofList (unbracket middle), remotePort⟩ := by
  unfold parseTrimmed at h
  split at h
  · cases h
  · next localPart rest first =>
    split at h
    · cases h
    · next middle remotePart last =>
      dsimp only at h
      split at h
      · cases h
      · next nonempty =>
        split at h
        · cases h
        · split at h
          · cases h
          · next localPort readLocal =>
            split at h
            · cases h
            · next remotePort readRemote =>
              cases h
              obtain ⟨whole, -⟩ := splitFirst_eq_some first
              obtain ⟨split, -⟩ := splitLast_eq_some last
              exact ⟨localPart, middle, remotePart, localPort, remotePort, by rw [whole, split],
                nonempty, readLocal, readRemote, rfl⟩

theorem parseChars_eq_ok : parseChars p cs = .ok r ↔ parseTrimmed p (trim cs) = .ok r := by
  unfold parseChars
  cases parseTrimmed p (trim cs) with
  | error fault => exact ⟨fun h => (by cases h), fun h => (by cases h)⟩
  | ok route => simp only [Except.mapError, Except.ok.injEq]

/-- Reading gives routes that can be written. The brackets that it drops are those that writing
does not add. -/
theorem isWritable_of_parseChars (comma : ',' ∉ cs) (h : parseChars p cs = .ok r) :
    r.IsWritable p := by
  obtain ⟨localPart, middle, remotePart, localPort, remotePort, whole, nonempty, -, -, rfl⟩ :=
    parseTrimmed_eq_ok (parseChars_eq_ok.mp h)
  refine ⟨rfl, rfl, ?_, ?_, ?_, ?_⟩
  · exact mt String.ofList_eq_empty_iff.mp nonempty
  · rw [String.toList_ofList]
    intro mem
    have inside : ',' ∈ trim cs := by
      rw [whole]
      exact List.mem_append_right _ (List.mem_cons_of_mem _
        (List.mem_append_left _ (mem_of_mem_dropEnds mem)))
    exact comma (mem_of_mem_dropEnds inside)
  · rw [String.toList_ofList]
    intro bracket
    have := head?_dropEnds (Option.mem_def.mpr bracket)
    cases this
  · rw [String.toList_ofList]
    intro bracket
    have := getLast?_dropEnds (Option.mem_def.mpr bracket)
    cases this

/-! ## Lists of rules -/

theorem parseChars_of_mem {items : List (List Char)} {rs : List Route}
    (h : items.mapM (parseChars p) = .ok rs) (mem : r ∈ rs) :
    ∃ item ∈ items, parseChars p item = .ok r := by
  induction items generalizing rs with
  | nil => cases h; cases mem
  | cons item items ih =>
    rw [List.mapM_cons] at h
    cases first : parseChars p item with
    | error e => rw [first] at h; cases h
    | ok route =>
      cases others : items.mapM (parseChars p) with
      | error e => rw [first, others] at h; cases h
      | ok routes =>
        rw [first, others] at h
        cases h
        rcases List.mem_cons.mp mem with rfl | mem
        · exact ⟨item, List.mem_cons_self, first⟩
        · obtain ⟨item, hi, read⟩ := ih others mem
          exact ⟨item, List.mem_cons_of_mem _ hi, read⟩

theorem isWritable_of_parseListChars {rs : List Route} (h : parseListChars p cs = .ok rs)
    (mem : r ∈ rs) : r.IsWritable p := by
  obtain ⟨item, hi, read⟩ := parseChars_of_mem h mem
  obtain ⟨piece, hp, rfl⟩ := List.mem_map.mp (List.mem_of_mem_filter hi)
  exact isWritable_of_parseChars
    (fun comma => notMem_of_mem_splitAll hp (mem_of_mem_dropEnds comma)) read

theorem comma_notMem_charsOf (h : r.IsWritable p) : ',' ∉ charsOf r := by
  have noComma (port : UInt16) : ',' ∉ Endpoint.portChars port := Endpoint.notMem_portChars rfl port
  have host : ',' ∉ Route.hostChars r.remoteHost.toList := by
    unfold Route.hostChars
    split <;> simp [h.comma]
  simp [charsOf, Route.targetChars, noComma, host]

theorem charsOf_ne_nil (r : Route) : charsOf r ≠ [] :=
  List.append_ne_nil_of_left_ne_nil (Endpoint.portChars_ne_nil _) _

theorem listChars_eq_intercalate (rs : List Route) :
    listChars rs = [','].intercalate (rs.map charsOf) := by
  induction rs with
  | nil => rfl
  | cons r rs ih =>
    cases rs with
    | nil => simp [listChars]
    | cons s rs =>
      rw [listChars, ih]
      · simp only [List.map_cons, List.intercalate_cons_cons, List.append_assoc,
          List.singleton_append]
      · exact List.cons_ne_nil _ _

/-- The items of a list of rules are its rules. -/
theorem items_listChars {rs : List Route} (h : ∀ r ∈ rs, r.IsWritable p) :
    items (listChars rs) = rs.map charsOf := by
  cases rs with
  | nil => rfl
  | cons r rs =>
    have pieces : splitAll ',' (listChars (r :: rs)) = (r :: rs).map charsOf := by
      rw [listChars_eq_intercalate]
      refine splitAll_intercalate (fun piece hp => ?_) (List.cons_ne_nil _ _)
      obtain ⟨r', hr, rfl⟩ := List.mem_map.mp hp
      exact comma_notMem_charsOf (h r' hr)
    have trimmed : ((r :: rs).map charsOf).map trim = (r :: rs).map charsOf := by
      rw [List.map_map]
      exact List.map_congr_left fun r _ => trim_charsOf r
    rw [items, pieces, trimmed, List.filter_eq_self.mpr]
    intro piece hp
    obtain ⟨r', -, rfl⟩ := List.mem_map.mp hp
    exact decide_eq_true (charsOf_ne_nil r')

theorem mapM_charsOf {rs : List Route} (h : ∀ r ∈ rs, r.IsWritable p) :
    (rs.map charsOf).mapM (parseChars p) = .ok rs := by
  induction rs with
  | nil => rfl
  | cons r rs ih =>
    rw [List.map_cons, List.mapM_cons, parseChars_charsOf (h r List.mem_cons_self),
      ih fun r hr => h r (List.mem_cons_of_mem _ hr)]
    rfl

def text (r : Route) : String := s!"{r.localPort}:{r.targetAddress}"

def listText (rs : List Route) : String := ",".intercalate (rs.map text)

theorem toList_text (r : Route) : (text r).toList = charsOf r := by
  have port : toString r.localPort = String.ofList (Endpoint.portChars r.localPort) := rfl
  rw [text, Route.targetAddress, port]
  simp [charsOf, toString]

theorem toList_listText (rs : List Route) : (listText rs).toList = listChars rs := by
  rw [listText, String.toList_intercalate, List.map_map, listChars_eq_intercalate]
  congr 1
  exact List.map_congr_left fun r _ => toList_text r

theorem parseList_listText (p : Protocol) :
    (∀ list rs, parseList p list = .ok rs → parseList p (listText rs) = .ok rs) ∧
      ∀ rs, (∀ r ∈ rs, r.IsWritable p) → parseList p (listText rs) = .ok rs := by
  have back (rs : List Route) (h : ∀ r ∈ rs, r.IsWritable p) :
      parseList p (listText rs) = .ok rs := by
    rw [parseList, toList_listText, parseListChars, items_listChars h, mapM_charsOf h]
  exact ⟨fun list rs h => back rs fun r hr => isWritable_of_parseListChars h hr, back⟩

/-- A list with blanks and an address in brackets, and a host that needs brackets for its colon
and has brackets and a blank of its own inside. -/
theorem parseList_listText_bracketed :
    (∃ rs, parseList .udp "8080:example.net:80, 53:[2001:db8::1]:53," = .ok rs ∧ rs.length = 2 ∧
      parseList .udp (listText rs) = .ok rs) ∧
    let odd : Route := ⟨.tcp, .unspecified, 0, "a b]c:[d", 65535⟩
    odd.IsWritable .tcp ∧ parseList .tcp (listText [odd, odd]) = .ok [odd, odd] := by
  have read : parseList .udp "8080:example.net:80, 53:[2001:db8::1]:53," =
      .ok [⟨.udp, .unspecified, 8080, "example.net", 80⟩,
        ⟨.udp, .unspecified, 53, "2001:db8::1", 53⟩] := by decide +kernel
  have writable : (⟨.tcp, .unspecified, 0, "a b]c:[d", 65535⟩ : Route).IsWritable .tcp :=
    ⟨rfl, rfl, by decide, by decide, by decide, by decide⟩
  refine ⟨⟨_, read, rfl, (parseList_listText .udp).1 _ _ read⟩, writable,
    (parseList_listText .tcp).2 _ fun r hr => ?_⟩
  have same : r = ⟨.tcp, .unspecified, 0, "a b]c:[d", 65535⟩ := by simpa using hr
  exact same ▸ writable

end Rule

end SocketRelay
