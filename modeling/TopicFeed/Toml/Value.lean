/-! TOML values, as far as texts, integers, truth values and tables are concerned. -/
namespace TopicFeed

namespace Toml

/-- How a table came to be, which decides whether it may still grow. -/
inductive Origin where
  /-- The document itself, or named by a header. -/
  | header
  /-- On the way to a table that a header names. -/
  | passed
  /-- On the way to a dotted key. -/
  | dotted
  /-- Written between braces. -/
  | inline
  deriving DecidableEq

end Toml

/-- A TOML value. Floats, dates and times keep no value. -/
inductive Toml where
  | text (value : String)
  | integer (value : Int)
  | bool (value : Bool)
  | float
  | moment
  | array (items : List Toml)
  | table (origin : Toml.Origin) (entries : List (String × Toml))
  /-- Tables that share a header in double brackets, the last one first. -/
  | tables (items : List (List (String × Toml)))

namespace Toml

/-- The entries of a table by key, in no particular order. -/
abbrev Entries := List (String × Toml)

def Entries.put (entries : Entries) (key : String) (value : Toml) : Entries :=
  (key, value) :: entries.filter fun e => e.1 != key

end Toml
end TopicFeed
