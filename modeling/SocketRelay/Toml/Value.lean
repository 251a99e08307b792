import SocketRelay.Toml.Binary64

/-!
# TOML values

A table keeps its entries in the order of the document. An array written as
repeated `[[headers]]` is kept apart from one written in brackets.
-/

namespace SocketRelay.Toml

inductive Value where
  | string (s : String)
  | integer (n : Int64)
  | float (x : Binary64)
  | boolean (b : Bool)
  /-- A date, a time or both, as written. -/
  | datetime (text : String)
  | array (items : List Value)
  | table (entries : List (String × Value))
  | tables (items : List (List (String × Value)))
  deriving Inhabited

/-- Values by key. -/
abbrev Table := List (String × Value)

end SocketRelay.Toml
