import SocketRelay.Route
import SocketRelay.Text.Blank
import SocketRelay.Text.Split

/-!
# Rules

A rule writes a route as `LOCALPORT:REMOTEHOST:REMOTEPORT`; a rule list
separates rules by commas. Blanks around a rule do not count, and blank items
of a list are skipped. A host with a colon must be in brackets.
-/

namespace SocketRelay

open Net Text

/-- Why a rule is refused. -/
inductive RuleFault where
  /-- Fewer than two colons, or a host with a colon outside brackets. -/
  | shape
  | emptyHost
  | localPort
  | remotePort
  deriving DecidableEq, Repr, Inhabited

namespace RuleFault

def message : RuleFault → String
  | shape => "expected LOCALPORT:REMOTEIP:REMOTEPORT"
  | emptyHost => "remote host is empty"
  | localPort => "local port is not a valid port number"
  | remotePort => "remote port is not a valid port number"

end RuleFault

/-- A refused rule, without the blanks around it. -/
structure RuleError where
  rule : String
  fault : RuleFault
  deriving DecidableEq, Repr, Inhabited

namespace Rule

/-- The host without the brackets around it. -/
def unbracket (cs : List Char) : List Char :=
  dropEndWhile (· == ']') (cs.dropWhile (· == '['))

/-- The route of a rule without blanks around it. -/
def parseTrimmed (protocol : Protocol) (cs : List Char) : Except RuleFault Route :=
  match splitFirst ':' cs with
  | none => .error .shape
  | some (localPart, rest) =>
    match splitLast ':' rest with
    | none => .error .shape
    | some (middle, remotePart) =>
      let host := unbracket middle
      if host = [] then .error .emptyHost
      else if ':' ∈ host ∧ rest.head? ≠ some '[' then .error .shape
      else
        match Endpoint.parsePort? localPart with
        | none => .error .localPort
        | some localPort =>
          match Endpoint.parsePort? remotePart with
          | none => .error .remotePort
          | some remotePort =>
            .ok ⟨protocol, .unspecified, localPort, String.ofList host, remotePort⟩

/-- The route of a rule. -/
def parseChars (protocol : Protocol) (cs : List Char) : Except RuleError Route :=
  (parseTrimmed protocol (trim cs)).mapError (⟨String.ofList (trim cs), ·⟩)

def parse (protocol : Protocol) (rule : String) : Except RuleError Route :=
  parseChars protocol rule.toList

/-- The items of a list that are not blank. -/
def items (cs : List Char) : List (List Char) :=
  ((splitAll ',' cs).map trim).filter (· ≠ [])

/-- The routes of a rule list, or the error of the first refused rule. -/
def parseListChars (protocol : Protocol) (cs : List Char) : Except RuleError (List Route) :=
  (items cs).mapM (parseChars protocol)

def parseList (protocol : Protocol) (list : String) : Except RuleError (List Route) :=
  parseListChars protocol list.toList

/-- A route written as a rule. -/
def charsOf (r : Route) : List Char :=
  Endpoint.portChars r.localPort ++ ':' :: r.targetChars

/-- Rules with commas between them. -/
def listChars : List Route → List Char
  | [] => []
  | [r] => charsOf r
  | r :: rs => charsOf r ++ ',' :: listChars rs

end Rule

end SocketRelay
