/-!
# TOML values

What a TOML document says once its notation is gone. A document is its top-level table, a list of
distinct keys with their values in document order; the order is kept because the first key that
does not fit is the one that is reported.
-/

namespace CommandShell.Toml

/-- A value. Dates and times are only told apart from other values; no reader here needs more. -/
inductive Value
  | string (s : String)
  | integer (n : Int)
  | float (x : Float)
  | boolean (b : Bool)
  | datetime
  | array (items : List Value)
  | table (entries : List (String × Value))

/-- The top-level table of a document. -/
abbrev Document := List (String × Value)

end CommandShell.Toml
