/-! JSON values, as far as integers, texts and structure are concerned. -/
namespace TopicFeed

/-- A JSON value. Numbers that are not written as an integer keep no value, and a text with half
of a surrogate pair in it cannot be read, only passed over. -/
inductive Json where
  | null
  | bool (value : Bool)
  | integer (value : Int)
  /-- A number with a fraction or an exponent, or a negative zero. -/
  | real
  | text (value : String)
  /-- A text that is no sequence of characters. -/
  | brokenText
  | array (items : List Json)
  /-- The members in order, repeated keys included; a key that cannot be read is `none`. -/
  | object (members : List (Option String × Json))

namespace Json

instance : Inhabited Json := ⟨.null⟩

def ofMembers (members : List (String × Json)) : Json :=
  .object (members.map fun m => (some m.1, m.2))

/-- The last value under a key. -/
def get? (json : Json) (key : String) : Option Json :=
  match json with
  | .object members => members.reverse.lookup (some key)
  | _ => none

def text? : Json → Option String
  | .text value => some value
  | _ => none

def bool? : Json → Option Bool
  | .bool value => some value
  | _ => none

def integer? : Json → Option Int
  | .integer value => some value
  | _ => none

def array? : Json → Option (List Json)
  | .array items => some items
  | _ => none

end Json
end TopicFeed
