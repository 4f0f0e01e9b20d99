import TopicFeed.Collection.OrderedSet
import TopicFeed.KeySpace.Layout
import TopicFeed.Topic.Name
/-! Topics and their partitions, the units that are consumed. A partition here is a physical
partition of a topic together with some of its key ranges. -/
namespace TopicFeed

open Std

/-- A topic as the broker describes it; without partitions its count is zero. -/
structure TopicMetadata where
  name : String
  partitionCount : UInt32
  deriving DecidableEq

/-- A physical partition with the key ranges consumed together. -/
structure Partition where
  topic : String
  id : Int32
  ranges : List KeyRange
  mode : ShareMode
  deriving DecidableEq

namespace Partition

/-- The partition id of a topic without partitions. -/
def unpartitioned : Int32 := -1

/-- A partition with a complete topic name and its ranges in order, each once. -/
def of (topic : String) (id : Int32) (ranges : List KeyRange) (mode : ShareMode) : Partition :=
  ⟨TopicName.complete topic, id, (OrderedSet.ofList ranges).toList, mode⟩

def isPartitioned (p : Partition) : Bool := p.id != unpartitioned

/-- The name by which the broker knows the physical partition. -/
def fullName (p : Partition) : String :=
  if p.isPartitioned then TopicName.ofPartition p.topic p.id else p.topic

protected def toString (p : Partition) : String :=
  p.fullName ++ "|" ++ ",".intercalate (p.ranges.map KeyRange.toString) ++ "|" ++ p.mode.toString

/-- By topic, id, ranges and mode. -/
def order : Partition → Partition → Ordering :=
  compareLex (compareOn topic)
    (compareLex (compareOn id) (compareLex (compareOn ranges) (compareOn fun p => p.mode.index)))

instance : Ord Partition := ⟨order⟩

instance : TransOrd Partition :=
  inferInstanceAs (TransCmp
    (compareLex (compareOn topic)
      (compareLex (compareOn id)
        (compareLex (compareOn ranges) (compareOn fun p => p.mode.index)))))

instance : LawfulEqOrd Partition where
  eq_of_compare {a b} h := by
    have h : order a b = .eq := h
    have first := compareLex_eq_eq.mp h
    have second := compareLex_eq_eq.mp first.2
    have third := compareLex_eq_eq.mp second.2
    have topics : a.topic = b.topic := LawfulEqOrd.eq_of_compare first.1
    have ids : a.id = b.id := LawfulEqOrd.eq_of_compare second.1
    have ranges : a.ranges = b.ranges := LawfulEqOrd.eq_of_compare third.1
    have modes : a.mode = b.mode := ShareMode.index_injective (LawfulEqOrd.eq_of_compare third.2)
    cases a
    cases b
    cases topics
    cases ids
    cases ranges
    cases modes
    rfl

/-- The partitions that share a physical partition, one for all ranges or one a range. -/
def sharing (topic : String) (id : Int32) (ranges : List KeyRange) : ShareMode → List Partition
  | .join => [of topic id ranges .join]
  | .split => ranges.map fun r => of topic id [r] .split

end Partition

namespace TopicMetadata

def ofName (name : String) (partitionCount : UInt32) : TopicMetadata :=
  ⟨TopicName.complete name, partitionCount⟩

def isPartitioned (m : TopicMetadata) : Bool := 0 < m.partitionCount

/-- The ids of the physical partitions. They are signed words, so a count that is no positive
signed word has none. -/
def partitionIds (m : TopicMetadata) : List Int32 :=
  if m.isPartitioned then
    if m.partitionCount.toNat < TopicName.indexLimit then
      (List.range m.partitionCount.toNat).map Int32.ofNat
    else []
  else [Partition.unpartitioned]

def partitions (m : TopicMetadata) (ranges : List KeyRange) (mode : ShareMode) : List Partition :=
  m.partitionIds.flatMap fun id => Partition.sharing m.name id ranges mode

end TopicMetadata
end TopicFeed
