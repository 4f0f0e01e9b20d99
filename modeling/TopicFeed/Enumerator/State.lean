import TopicFeed.Split
/-! What an enumerator remembers across a restart. -/
namespace TopicFeed

/-- The partitions discovered so far, the splits no reader has yet, and the ids of the splits that
were reported finished. Splits that a reader has are part of that reader's state. -/
@[ext] structure EnumeratorState where
  appended : OrderedSet Partition
  pending : List Split
  finished : OrderedSet String
  deriving DecidableEq

namespace EnumeratorState

def empty : EnumeratorState := ⟨∅, [], ∅⟩

/-- Adds a split, unless its partition is known. -/
def add (s : EnumeratorState) (split : Split) : EnumeratorState :=
  if s.appended.contains split.partition then s
  else { s with appended := s.appended.insert split.partition, pending := s.pending ++ [split] }

/-- Every discovered partition has a split, so all have finished once each was reported. -/
def allSplitsFinished (s : EnumeratorState) : Bool :=
  s.pending.isEmpty && s.appended.toList.all fun p => s.finished.contains p.toString

end EnumeratorState
end TopicFeed
