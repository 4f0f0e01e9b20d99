import TopicFeed.Unicode.Age
import TopicFeed.Unicode.Script
import TopicFeed.Unicode.Segmentation
/-! The sets of characters that patterns name by a property. -/
namespace TopicFeed
namespace Regex

open Unicode

def category? (loose : String) : Option CharSet :=
  match loose with
  | "any" => some .all
  | "ascii" => some (.run 0 0x7F)
  | "assigned" => some (Category.chars .unassigned).complement
  | _ => (Category.named? loose).map Category.charsOf

/-- The set of a property, of categories or of a script by its name. -/
def named? (loose : String) : Option CharSet :=
  ((property? loose).or (category? loose)).or ((Script.named? loose).map Script.chars)

/-- The set of the characters for which a property has a value. -/
def valued? (property value : String) : Option CharSet :=
  let isNamed (names : List String) := isNamed property names
  if isNamed ["gc", "General_Category"] then category? value
  else if isNamed ["sc", "Script"] then (Script.named? value).map Script.chars
  else if isNamed ["scx", "Script_Extensions"] then (Script.named? value).map Script.usedChars
  else if isNamed ["age"] then assignedBy? value
  else if isNamed ["GCB", "Grapheme_Cluster_Break"] then kind? GraphemeBreak.kinds value
  else if isNamed ["WB", "Word_Break"] then kind? WordBreak.kinds value
  else if isNamed ["SB", "Sentence_Break"] then kind? SentenceBreak.kinds value
  else none

/-- Splits a text at the first place where some characters stand. -/
def splitAt? (mark : List Char) : List Char → Option (List Char × List Char)
  | [] => none
  | c :: rest =>
    if mark.isPrefixOf (c :: rest) then some ([], (c :: rest).drop mark.length)
    else (splitAt? mark rest).map fun (before, after) => (c :: before, after)

/-- The set that a query names, which may be a property alone, or have a value after a colon, an
equals sign, or the sign for unequal; with the last, what is not in the set is meant. -/
def query? (query : List Char) : Option (CharSet × Bool) :=
  let loose (name : List Char) := looseName (.ofList name)
  match splitAt? ['!', '='] query with
  | some (property, value) => (valued? (loose property) (loose value)).map fun set => (set, true)
  | none =>
    match (splitAt? [':'] query).or (splitAt? ['='] query) with
    | some (property, value) =>
      (valued? (loose property) (loose value)).map fun set => (set, false)
    | none => (named? (loose query)).map fun set => (set, false)

end Regex
end TopicFeed
