import TopicFeed.Json.Value
import TopicFeed.Text.Hex
/-! Writing JSON, on one line and without blanks. -/
namespace TopicFeed
namespace Json

def escape (c : Char) : List Char :=
  if c = '"' then ['\\', '"']
  else if c = '\\' then ['\\', '\\']
  else if c = '\n' then ['\\', 'n']
  else if c = '\r' then ['\\', 'r']
  else if c = '\t' then ['\\', 't']
  else if c.toNat < 0x20 then
    ['\\', 'u', '0', '0', Hex.digit (c.toNat / 16), Hex.digit (c.toNat % 16)]
  else [c]

def quote (text : String) : String := "\"" ++ .ofList (text.toList.flatMap escape) ++ "\""

mutual

/-- The text of a value. What cannot be read is written as null. -/
def render : Json → String
  | .null | .real | .brokenText => "null"
  | .bool true => "true"
  | .bool false => "false"
  | .integer value => value.repr
  | .text value => quote value
  | .array items => "[" ++ ",".intercalate (renderItems items) ++ "]"
  | .object members => "\x7b" ++ ",".intercalate (renderMembers members) ++ "\x7d"

def renderItems : List Json → List String
  | [] => []
  | item :: rest => item.render :: renderItems rest

def renderMembers : List (Option String × Json) → List String
  | [] => []
  | (key, value) :: rest => (quote (key.getD "") ++ ":" ++ value.render) :: renderMembers rest

end

end Json
end TopicFeed
