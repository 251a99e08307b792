import SocketRelay.Log.Expression

/-!
# Patterns

Which texts are patterns for the value of a field: numbers with a sign, and
regular expressions. No record is matched against a pattern, so it is enough to
know whether a text is one.
-/

namespace SocketRelay.Log

namespace Pattern

open Text

/-- Nothing, or an exponent. -/
def isExponent : List Char → Bool
  | [] => true
  | 'e' :: '+' :: cs | 'e' :: '-' :: cs | 'E' :: '+' :: cs | 'E' :: '-' :: cs
  | 'e' :: cs | 'E' :: cs => (number? 10 cs).isSome
  | _ => false

/-- Whether a text without a sign is a decimal number, the infinite one or none. -/
def isNumber (cs : List Char) : Bool :=
  let afterDigits (cs : List Char) := cs.dropWhile (isDigitIn 10)
  let startsWithDigit (cs : List Char) := cs.head?.any (isDigitIn 10)
  (String.ofList cs).toLower ∈ ["inf", "infinity", "nan"] ||
    match afterDigits cs with
    | '.' :: rest => (startsWithDigit cs || startsWithDigit rest) && isExponent (afterDigits rest)
    | rest => startsWithDigit cs && isExponent rest

end Pattern

/-- Whether a text is a pattern. -/
def isPattern : List Char → Bool
  | '+' :: cs => Pattern.isNumber cs
  | cs => isExpression cs

end SocketRelay.Log
