import SocketRelay.Text.Printable

/-!
# Quoted text

A text between double quotes, with the quotes, backslashes and unprintable
characters inside it escaped, so that it reads as one token of one line.
-/

namespace SocketRelay.Text

/-- The escape of a character inside quotes. -/
def escapeChar (c : Char) : List Char :=
  match c with
  | '\x00' => ['\\', '0']
  | '\t' => ['\\', 't']
  | '\n' => ['\\', 'n']
  | '\r' => ['\\', 'r']
  | '"' => ['\\', '"']
  | '\\' => ['\\', '\\']
  | c =>
    if isPrintable c then [c]
    else ['\\', 'u', '\x7b'] ++ Nat.toDigits 16 c.toNat ++ ['\x7d']

def quote (s : String) : String :=
  String.ofList ('"' :: s.toList.flatMap escapeChar ++ ['"'])

end SocketRelay.Text
