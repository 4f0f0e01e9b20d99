import TopicFeed.Collection.OrderedMap
import TopicFeed.Split
/-! Splits on their way to readers. -/
namespace TopicFeed

/-- The splits for each reader, in the order they were added. -/
abbrev Assignment := OrderedMap UInt32 (List Split)

namespace Assignment

def add (a : Assignment) (reader : UInt32) (split : Split) : Assignment :=
  a.insert reader ((a.get? reader).getD [] ++ [split])

def splitsOf (a : Assignment) (reader : UInt32) : List Split := (a.get? reader).getD []

def splitCount (a : Assignment) : Nat := a.values.flatten.length

end Assignment

/-- What an enumerator tells the runtime of the readers. -/
inductive Directive where
  | assign (assignment : Assignment)
  | noMoreSplits (reader : UInt32)

end TopicFeed
