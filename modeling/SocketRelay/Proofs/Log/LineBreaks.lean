import SocketRelay.Event
import SocketRelay.Net.IoError
import SocketRelay.Proofs.Text.Digits

/-!
# Line breaks in event lines

A line break is any character at which Unicode ends a line. Addresses, numbers
and the names of error numbers have none, and neither have the words around
them, so the line of an event has exactly the line breaks that were put into it
with a text (`Event.hasLineBreak_line`): the target of a route, the text of an
error, or the listen address of a route that failed.
-/

namespace SocketRelay

open Net Text

namespace Text

def isLineBreak (c : Char) : Bool :=
  c == '\n' || c == '\r' || c == '\x0b' || c == '\x0c' || c == '\u0085' || c == '\u2028' ||
    c == '\u2029'

def hasLineBreak (s : String) : Bool := s.toList.any isLineBreak

@[simp] theorem hasLineBreak_append (s t : String) :
    hasLineBreak (s ++ t) = (hasLineBreak s || hasLineBreak t) := by
  simp only [hasLineBreak, String.toList_append, List.any_append]

@[simp] theorem hasLineBreak_ofList (cs : List Char) :
    hasLineBreak (String.ofList cs) = cs.any isLineBreak := by
  simp only [hasLineBreak, String.toList_ofList]

@[simp] theorem hasLineBreak_toString (s : String) : hasLineBreak (toString s) = hasLineBreak s :=
  rfl

theorem isLineBreak_of_isDigitIn {base : Nat} {c : Char} (digit : isDigitIn base c = true) :
    isLineBreak c = false := by
  cases broken : isLineBreak c with
  | false => rfl
  | true =>
    simp only [isLineBreak, Bool.or_eq_true, beq_iff_eq] at broken
    rcases broken with (((((rfl | rfl) | rfl) | rfl) | rfl) | rfl) | rfl <;> cases digit

theorem any_isLineBreak_toDigits {base : Nat} (one_lt : 1 < base) (le : base ≤ 16) (n : Nat) :
    (Nat.toDigits base n).any isLineBreak = false := by
  rw [List.any_eq_false]
  intro c mem
  rw [isLineBreak_of_isDigitIn (isDigitIn_of_mem_toDigits one_lt le mem)]
  exact Bool.false_ne_true

@[simp] theorem hasLineBreak_nat (n : Nat) : hasLineBreak (toString n) = false := by
  rw [Nat.toString_eq_ofList_toDigits, hasLineBreak_ofList]
  exact any_isLineBreak_toDigits (by decide) (by decide) n

@[simp] theorem hasLineBreak_word (n : UInt64) : hasLineBreak (toString n) = false :=
  hasLineBreak_nat n.toNat

end Text

/-! ## Addresses and errors -/

namespace Net

@[simp] theorem IPv4.any_isLineBreak_chars (ip : IPv4) : ip.chars.any isLineBreak = false := by
  have byte (x : UInt8) : (byteChars x).any isLineBreak = false :=
    any_isLineBreak_toDigits (by decide) (by decide) _
  simp only [chars, List.any_append, List.any_cons, byte]
  rfl

@[simp] theorem IPv6.any_isLineBreak_groupsChars (gs : List UInt16) :
    (groupsChars gs).any isLineBreak = false := by
  have group (g : UInt16) : (groupChars g).any isLineBreak = false :=
    any_isLineBreak_toDigits (by decide) (by decide) _
  fun_induction groupsChars gs with
  | case1 => rfl
  | case2 g => exact group g
  | case3 g gs _ ih =>
    rw [List.any_append, List.any_cons, group, ih]
    rfl

@[simp] theorem IPv6.any_isLineBreak_chars (ip : IPv6) : ip.chars.any isLineBreak = false := by
  unfold chars
  split
  · rw [List.any_append, IPv4.any_isLineBreak_chars]
    rfl
  · dsimp only
    split
    · simp only [List.any_append, any_isLineBreak_groupsChars]
      rfl
    · exact any_isLineBreak_groupsChars _

theorem Endpoint.any_isLineBreak_portChars (p : UInt16) :
    (portChars p).any isLineBreak = false :=
  any_isLineBreak_toDigits (by decide) (by decide) _

theorem Endpoint.any_isLineBreak_scopeChars (scope : UInt32) :
    (scopeChars scope).any isLineBreak = false := by
  unfold scopeChars
  split
  · rfl
  · rw [List.any_cons, any_isLineBreak_toDigits (by decide) (by decide)]
    rfl

@[simp] theorem Endpoint.hasLineBreak_text (e : Endpoint) : hasLineBreak e.text = false := by
  rw [text, hasLineBreak_ofList]
  cases e with
  | v4 ip p =>
    simp only [chars, List.any_append, List.any_cons, IPv4.any_isLineBreak_chars,
      any_isLineBreak_portChars]
    rfl
  | v6 ip p flow scope =>
    simp only [chars, List.any_append, List.any_cons, IPv6.any_isLineBreak_chars,
      any_isLineBreak_scopeChars, any_isLineBreak_portChars]
    rfl

@[simp] theorem Endpoint.hasLineBreak_toString (e : Endpoint) :
    hasLineBreak (toString e) = false := e.hasLineBreak_text

def IoError.IsPlain (cause : IoError) : Prop := hasLineBreak cause.message = false

end Net

/-! ## Events -/

@[simp] theorem Protocol.hasLineBreak_toString (p : Protocol) :
    hasLineBreak (toString p) = false := by
  cases p <;> decide +kernel

@[simp] theorem Direction.hasLineBreak_toString (d : Direction) :
    hasLineBreak (toString d) = false := by
  cases d <;> decide +kernel

@[simp] theorem FailureReason.hasLineBreak_toString (r : FailureReason) :
    hasLineBreak (toString r) = false := by
  cases r <;> decide +kernel

@[simp] theorem SessionOp.hasLineBreak_toString (op : SessionOp) :
    hasLineBreak (toString op) = false := by
  cases op <;> decide +kernel

namespace Event

def texts : Event → List String
  | relayStarted _ _ target | connectionOpened _ target | connectionClosed _ target _ _ => [target]
  | relayFailed _ listen error => [listen, error]
  | acceptFailed _ error | datagramReadFailed _ error | sessionIoFailed _ _ error => [error]
  | connectionDialFailed _ target error | copyFailed _ target _ error
  | targetResolveFailed target error | sessionDialFailed _ target error => [target, error]
  | _ => []

/-- The line of an event breaks where one of its texts does. -/
theorem hasLineBreak_line (e : Event) : hasLineBreak e.line = e.texts.any hasLineBreak := by
  cases e
  case sessionEvicted reason =>
    cases reason <;> unfold line texts <;>
      simp only [hasLineBreak_append, hasLineBreak_toString, Endpoint.hasLineBreak_toString,
        FailureReason.hasLineBreak_toString, List.any_nil]
    all_goals decide +kernel
  all_goals
    unfold line texts
    simp only [hasLineBreak_append, hasLineBreak_toString, Endpoint.hasLineBreak_toString,
      Protocol.hasLineBreak_toString, Direction.hasLineBreak_toString,
      FailureReason.hasLineBreak_toString, SessionOp.hasLineBreak_toString, hasLineBreak_word,
      List.any_cons, List.any_nil, Bool.or_false]
  case ingestStalled | sessionCreated | datagramDropped | eventQueueFull => decide +kernel
  case relayStarted target | connectionOpened target | connectionClosed target _ _ =>
    cases hasLineBreak target <;> decide +kernel
  case acceptFailed error | datagramReadFailed error | sessionIoFailed error =>
    cases hasLineBreak error <;> decide +kernel
  case relayFailed text error | connectionDialFailed text error | copyFailed text _ error
      | targetResolveFailed text error | sessionDialFailed text error =>
    cases hasLineBreak text <;> cases hasLineBreak error <;> decide +kernel

/-- Whether the line of an event says what the target of the route is. -/
def namesTarget : Event → Bool
  | relayStarted .. | connectionOpened .. | connectionDialFailed .. | copyFailed ..
  | connectionClosed .. | targetResolveFailed .. | sessionDialFailed .. => true
  | _ => false

/-- The line of an event breaks exactly if it names the target and the target breaks. -/
def BreaksWith (target : String) (e : Event) : Prop :=
  hasLineBreak e.line = (e.namesTarget && hasLineBreak target)

namespace BreaksWith

variable {e : Event} {target : String}

/-- An event that names the target, and otherwise has texts that break no line or break with the
target. -/
theorem named {errors : List String} (names : e.namesTarget = true)
    (texts : e.texts = target :: errors)
    (plain : ∀ error ∈ errors,
      hasLineBreak error = false ∨ hasLineBreak error = hasLineBreak target) :
    e.BreaksWith target := by
  rw [BreaksWith, hasLineBreak_line, texts, names, Bool.true_and, List.any_cons]
  cases broken : hasLineBreak target with
  | true => rfl
  | false =>
    rw [Bool.false_or, List.any_eq_false]
    intro error mem
    rcases plain error mem with single | same
    · exact Bool.eq_false_iff.mp single
    · exact Bool.eq_false_iff.mp (same.trans broken)

/-- An event that has no text but the target. -/
theorem bare (names : e.namesTarget = true) (texts : e.texts = [target]) : e.BreaksWith target :=
  named names texts nofun

theorem other (names : e.namesTarget = false)
    (plain : ∀ text ∈ e.texts, hasLineBreak text = false) :
    e.BreaksWith target := by
  rw [BreaksWith, hasLineBreak_line, names, Bool.false_and, List.any_eq_false]
  exact fun text mem => Bool.eq_false_iff.mp (plain text mem)

end BreaksWith

end Event

namespace Route

theorem any_isLineBreak_hostChars (host : List Char) :
    (hostChars host).any isLineBreak = host.any isLineBreak := by
  unfold hostChars
  split
  · rw [List.any_append, List.any_cons]
    exact Bool.or_false _
  · rfl

/-- The target of a route has the line breaks of its host. -/
theorem hasLineBreak_targetAddress (r : Route) :
    hasLineBreak r.targetAddress = hasLineBreak r.remoteHost := by
  rw [targetAddress, hasLineBreak_ofList, targetChars, List.any_append, any_isLineBreak_hostChars,
    List.any_cons, Endpoint.any_isLineBreak_portChars]
  exact Bool.or_false _

theorem hasLineBreak_listenAddress (r : Route) : hasLineBreak r.listenAddress = false :=
  r.listener.hasLineBreak_text

end Route

end SocketRelay
