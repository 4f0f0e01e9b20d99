import TopicFeed.Cursor.Stop
import TopicFeed.Failure
/-! Splits: partitions with the positions between which they are consumed. -/
namespace TopicFeed

/-- A partition, where its consumption starts and ends, and how far it has come. -/
structure Split where
  partition : Partition
  startPosition : Position
  stopCursor : StopCursor
  latestConsumed : Option MessageId
  deriving DecidableEq

namespace Split

/-- A split nothing of which has been consumed. -/
def fresh (partition : Partition) (startPosition : Position) (stopCursor : StopCursor) : Split :=
  ⟨partition, startPosition, stopCursor, none⟩

/-- The identity of the split, which is that of its partition. -/
def id (s : Split) : String := s.partition.toString

/-- Where a consumer has to seek to: after the last consumed message, else to the start. -/
def seekPosition (s : Split) : Position :=
  match s.latestConsumed with
  | some id => .after id
  | none => s.startPosition

def isResumed (s : Split) : Bool := s.latestConsumed.isSome

def recordConsumed (s : Split) (id : MessageId) : Split := { s with latestConsumed := some id }

@[simp] theorem recordConsumed_id (s : Split) (id : MessageId) :
    (s.recordConsumed id).id = s.id := rfl

@[simp] theorem recordConsumed_stopCursor (s : Split) (id : MessageId) :
    (s.recordConsumed id).stopCursor = s.stopCursor := rfl

/-- The split with its end resolved, given the last message. -/
def resolve (s : Split) (last : MessageId) : Split :=
  { s with stopCursor := s.stopCursor.resolve last }

/-- The split with its end resolved if the last message is known, else left for later. -/
def resolveBy (s : Split) : Except BrokerError MessageId → Split
  | .ok last => s.resolve last
  | .error _ => s

/-- Resolves the end of the split, asking for the last message if that is needed. -/
def opened (s : Split) : Query (Except Failure Split) :=
  if s.stopCursor.needsResolving then
    .ask (.lastMessageId s.partition.fullName) fun
      | .ok last => .done (.ok (s.resolve last))
      | .error cause => .done (.error (.lastMessageId s.partition.fullName cause))
  else .done (.ok s)

end Split
end TopicFeed
