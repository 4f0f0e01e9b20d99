import TopicFeed.Checkpoint.Format
import TopicFeed.Enumerator.State
/-! The byte formats of splits and states, in the current version and in the one before it, which
knew neither modes nor start positions nor finished splits. -/
namespace TopicFeed
namespace Layout

open Format (word text list option int32 int64 uint64 bool unit pair cases)

def keyRange : Format KeyRange :=
  (pair (word 32) (word 32)).refine
    (fun b => if h : b.1 < b.2 ∧ b.2 ≤ keyCount then some ⟨b.1, b.2, h.1, h.2⟩ else none)
    fun r => (r.start, r.stop)

def shareMode : Format ShareMode :=
  cases [⟨Unit, unit, fun _ => .join, fun | .join => some () | _ => none⟩,
    ⟨Unit, unit, fun _ => .split, fun | .split => some () | _ => none⟩]

def messageId : Format MessageId :=
  (pair int64 (pair int64 int32)).map (fun b => ⟨b.1, b.2.1, b.2.2⟩)
    fun id => (id.ledger, id.entry, id.batch)

def position : Format Position :=
  cases [⟨MessageId × Bool, pair messageId bool, fun b => .message b.1 b.2,
      fun | .message id inclusive => some (id, inclusive) | _ => none⟩,
    ⟨UInt64, uint64, .publishTime, fun | .publishTime time => some time | _ => none⟩]

def stopCursor : Format StopCursor :=
  cases [⟨Unit, unit, fun _ => .never, fun | .never => some () | _ => none⟩,
    ⟨Option MessageId, option messageId, .latest, fun | .latest last => some last | _ => none⟩,
    ⟨MessageId, messageId, .atMessage, fun | .atMessage id => some id | _ => none⟩,
    ⟨MessageId, messageId, .afterMessage, fun | .afterMessage id => some id | _ => none⟩,
    ⟨UInt64, uint64, .atPublishTime, fun | .atPublishTime time => some time | _ => none⟩,
    ⟨UInt64, uint64, .afterPublishTime, fun | .afterPublishTime time => some time | _ => none⟩,
    ⟨UInt64, uint64, .atEventTime, fun | .atEventTime time => some time | _ => none⟩,
    ⟨UInt64, uint64, .afterEventTime, fun | .afterEventTime time => some time | _ => none⟩]

def partition : Format Partition :=
  (pair text (pair int32 (pair (list keyRange) shareMode))).map
    (fun b => ⟨b.1, b.2.1, b.2.2.1, b.2.2.2⟩) fun p => (p.topic, p.id, p.ranges, p.mode)

def split : Format Split :=
  (pair partition (pair position (pair stopCursor (option messageId)))).map
    (fun b => ⟨b.1, b.2.1, b.2.2.1, b.2.2.2⟩)
    fun s => (s.partition, s.startPosition, s.stopCursor, s.latestConsumed)

def state : Format EnumeratorState :=
  (pair (list partition) (pair (list split) (list text))).map
    (fun b => ⟨.ofList b.1, b.2.1, .ofList b.2.2⟩)
    fun s => (s.appended.toList, s.pending, s.finished.toList)

end Layout

/-- Partitions without a mode. -/
structure LegacyPartition where
  topic : String
  id : Int32
  ranges : List KeyRange
  deriving DecidableEq

/-- Splits without a start position. -/
structure LegacySplit where
  partition : LegacyPartition
  stopCursor : StopCursor
  latestConsumed : Option MessageId
  deriving DecidableEq

/-- States without finished splits. -/
structure LegacyState where
  appended : List LegacyPartition
  pending : List LegacySplit
  deriving DecidableEq

/-- Partitions without a mode were consumed split by split. -/
def LegacyPartition.upgrade (p : LegacyPartition) : Partition := .of p.topic p.id p.ranges .split

/-- Splits without a start position start at the begin. -/
def LegacySplit.upgrade (s : LegacySplit) : Split :=
  ⟨s.partition.upgrade, .earliest, s.stopCursor, s.latestConsumed⟩

def LegacyState.upgrade (s : LegacyState) : EnumeratorState :=
  ⟨.ofList (s.appended.map LegacyPartition.upgrade), s.pending.map LegacySplit.upgrade, ∅⟩

namespace Layout

open Format (text list option int32 pair)

def legacyPartition : Format LegacyPartition :=
  (pair text (pair int32 (list keyRange))).map (fun b => ⟨b.1, b.2.1, b.2.2⟩)
    fun p => (p.topic, p.id, p.ranges)

def legacySplit : Format LegacySplit :=
  (pair legacyPartition (pair stopCursor (option messageId))).map (fun b => ⟨b.1, b.2.1, b.2.2⟩)
    fun s => (s.partition, s.stopCursor, s.latestConsumed)

def legacyState : Format LegacyState :=
  (pair (list legacyPartition) (list legacySplit)).map (fun b => ⟨b.1, b.2⟩)
    fun s => (s.appended, s.pending)

end Layout
end TopicFeed
