/-!
# Settings documents

The part of TOML that settings are written in: a table whose values are texts, integers, flags and
lists of texts.
-/

namespace TemplateServer.Toml

def minInteger : Int := -9223372036854775808

def maxInteger : Int := 9223372036854775807

/-- The value of a setting. -/
inductive Value
  | text (s : String)
  | integer (n : Int)
  | flag (b : Bool)
  | texts (ss : List String)
deriving DecidableEq, Repr

/-- The settings of a document, in the order in which they stand there. -/
abbrev Document := List (String × Value)

end TemplateServer.Toml
