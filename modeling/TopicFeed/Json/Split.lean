import TopicFeed.Cursor.Position
import TopicFeed.Json.Form
import TopicFeed.Settings.Fields
import TopicFeed.Split
/-! The forms of splits, of all that they consist of, and of settings. -/
namespace TopicFeed
namespace Json
namespace Form

open Fields (one)

def keyRange : Form KeyRange :=
  (record ((one "start" uint32).pair (one "end" uint32))).refine
    (fun b => (KeyRange.ofBounds b.1.toNat b.2.toNat).toOption)
    fun r => (.ofNat r.start, .ofNat r.stop)

def shareMode : Form ShareMode := named ShareMode.toString [.join, .split]

def partition : Form Partition :=
  (record ((one "topic" text).pair ((one "partition_id" int32).pair
    ((one "ranges" (list keyRange)).pair (one "mode" shareMode))))).map
    (fun b => ⟨b.1, b.2.1, b.2.2.1, b.2.2.2⟩) fun p => (p.topic, p.id, p.ranges, p.mode)

def messageId : Form MessageId :=
  (record ((one "ledger_id" int64).pair
    ((one "entry_id" int64).pair (one "batch_index" int32)))).map
    (fun b => ⟨b.1, b.2.1, b.2.2⟩) fun id => (id.ledger, id.entry, id.batch)

/-- A message id, and whether the message itself is meant or what follows it. -/
def boundary : Form (MessageId × Bool) :=
  object ((one "id" messageId).pair (one "inclusive" bool))

def position : Form Position :=
  cases [⟨"MessageId", MessageId × Bool, boundary, fun b => .message b.1 b.2,
      fun | .message id inclusive => some (id, inclusive) | _ => none⟩,
    ⟨"PublishTime", UInt64, uint64, .publishTime,
      fun | .publishTime time => some time | _ => none⟩]

def startCursor : Form StartCursor :=
  cases [.plain "Earliest" .earliest, .plain "Latest" .latest,
    ⟨"FromMessageId", MessageId × Bool, boundary, fun b => .fromMessage b.1 b.2,
      fun | .fromMessage id inclusive => some (id, inclusive) | _ => none⟩,
    ⟨"FromPublishTime", UInt64, uint64, .fromPublishTime,
      fun | .fromPublishTime time => some time | _ => none⟩]

def stopCursor : Form StopCursor :=
  cases [.plain "Never" .never,
    ⟨"Latest", Option MessageId, object (one "last" (option messageId)), .latest,
      fun | .latest last => some last | _ => none⟩,
    ⟨"AtMessageId", MessageId, messageId, .atMessage,
      fun | .atMessage id => some id | _ => none⟩,
    ⟨"AfterMessageId", MessageId, messageId, .afterMessage,
      fun | .afterMessage id => some id | _ => none⟩,
    ⟨"AtPublishTime", UInt64, uint64, .atPublishTime,
      fun | .atPublishTime time => some time | _ => none⟩,
    ⟨"AfterPublishTime", UInt64, uint64, .afterPublishTime,
      fun | .afterPublishTime time => some time | _ => none⟩,
    ⟨"AtEventTime", UInt64, uint64, .atEventTime,
      fun | .atEventTime time => some time | _ => none⟩,
    ⟨"AfterEventTime", UInt64, uint64, .afterEventTime,
      fun | .afterEventTime time => some time | _ => none⟩]

def split : Form Split :=
  (record ((one "partition" partition).pair ((one "start_position" position).pair
    ((one "stop_cursor" stopCursor).pair (one "latest_consumed_id" (option messageId)))))).map
    (fun b => ⟨b.1, b.2.1, b.2.2.1, b.2.2.2⟩)
    fun s => (s.partition, s.startPosition, s.stopCursor, s.latestConsumed)

/-- Settings, read as leniently as from a file. -/
def settings : Form Settings where
  write s := .ofMembers (Settings.names.zip [
    .text s.subscriptionName, .text s.subscriptionType.name, .text s.subscriptionMode.name,
    uint64.write s.messageQueueCapacity, int64.write s.partitionDiscoveryInterval,
    .bool s.autoAcknowledge, .bool s.schemaEvolution, uint64.write s.autoCommitCursorInterval,
    uint64.write s.transactionTimeout, .text s.defaultFetchTime, .text s.maxFetchTime,
    uint64.write s.maxFetchRecords, .text s.verifyInitialOffsets.name, .bool s.outOfOrderDelivery,
    (option text).write s.keySharedMode])
  read? := Settings.ofJson?

end Form
end Json
end TopicFeed
