import TopicFeed.Broker
import TopicFeed.Enumerator.State
import TopicFeed.Json.Split
import TopicFeed.Reader.Records
import TopicFeed.Settings.Configuration
/-! Descriptions in JSON: what a value consists of together with what follows from it, to be looked
at and not to be read back. -/
namespace TopicFeed

abbrev Description := List (String × Json)

namespace Description

def number (n : Nat) : Json := .integer n

def texts (l : List String) : Json := .array (l.map .text)

/-- Null for nothing. -/
def orNull {α : Type} (write : α → Json) : Option α → Json
  | none => .null
  | some a => write a

/-- Whole seconds and the nanoseconds after them. -/
def duration (d : Duration) : Json := .array [number d.seconds, number d.subsecond]

end Description

open Description (number texts orNull duration)

def Partition.describe (p : Partition) : Description :=
  [("topic", .text p.topic), ("partition_id", Json.Form.int32.write p.id),
    ("ranges", (Json.Form.list .keyRange).write p.ranges), ("mode", .text p.mode.toString),
    ("is_partitioned", .bool p.isPartitioned), ("full_topic_name", .text p.fullName),
    ("display", .text p.toString)]

def Split.describe (s : Split) : Description :=
  [("split", Json.Form.split.write s), ("split_id", .text s.id),
    ("partition", .ofMembers s.partition.describe),
    ("start_position", .text s.startPosition.toString),
    ("seek_position", .text s.seekPosition.toString),
    ("stop_cursor", Json.Form.stopCursor.write s.stopCursor),
    ("latest_consumed_id", orNull (fun id => .text id.toString) s.latestConsumed),
    ("is_resumed", .bool s.isResumed)]

def EnumeratorState.describe (s : EnumeratorState) : Description :=
  [("appended_partitions", (Json.Form.list .partition).write s.appended.toList),
    ("pending_splits", (Json.Form.list .split).write s.pending),
    ("finished_splits", texts s.finished.toList),
    ("all_splits_finished", .bool s.allSplitsFinished)]

/-- A message in short; a payload that is no text is left out. -/
def Message.describe (m : Message) : Json :=
  .array [.text m.topic, .text m.id.toString, orNull .text m.key,
    orNull .text (String.fromUTF8? ⟨m.payload.toArray⟩), Json.Form.uint64.write m.publishTime,
    orNull Json.Form.uint64.write m.eventTime]

def Records.describe (r : Records) : Description :=
  [("len", number r.size), ("is_empty", .bool r.isEmpty),
    ("records", .array (r.messages.map Message.describe)), ("finished", texts r.finished.toList)]

def Configuration.describe (c : Configuration) : Description :=
  [("subscription_name", .text c.subscriptionName),
    ("subscription_type", .text c.subscriptionType.name),
    ("subscription_type_display", .text c.subscriptionType.title),
    ("is_ordered", .bool c.subscriptionType.isOrdered),
    ("subscription_mode", .text c.subscriptionMode.name),
    ("subscription_mode_display", .text c.subscriptionMode.title),
    ("message_queue_capacity", number c.messageQueueCapacity),
    ("partition_discovery_interval", orNull duration c.partitionDiscoveryInterval),
    ("is_partition_discovery_enabled", .bool c.isPartitionDiscoveryEnabled),
    ("enable_auto_acknowledge_message", .bool c.autoAcknowledge),
    ("enable_schema_evolution", .bool c.schemaEvolution),
    ("auto_commit_cursor_interval", duration c.autoCommitCursorInterval),
    ("transaction_timeout", duration c.transactionTimeout),
    ("default_fetch_time", duration c.defaultFetchTime),
    ("max_fetch_time", duration c.maxFetchTime),
    ("max_fetch_records", number c.maxFetchRecords),
    ("verify_initial_offsets", .text c.verifyInitialOffsets.name),
    ("verify_initial_offsets_display", .text c.verifyInitialOffsets.title),
    ("allow_key_shared_out_of_order_delivery", .bool c.outOfOrderDelivery),
    ("key_shared_mode", orNull (fun mode => .text mode.toString) c.keySharedMode)]

def StickyPolicy.describe (p : StickyPolicy) : Description :=
  [("ranges", .array (p.ranges.map fun r => .array [number r.1, number r.2])),
    ("allow_out_of_order_delivery", .bool p.outOfOrderDelivery)]

def ConsumerOptions.describe (o : ConsumerOptions) : Description :=
  [("topic", .text o.topic), ("subscription_name", .text o.subscriptionName),
    ("subscription_type", .text o.subscriptionType.name),
    ("subscription_mode", .text o.subscriptionMode.name),
    ("receiver_queue_size", number o.receiverQueueSize),
    ("key_shared_policy", orNull (fun p => .ofMembers p.describe) o.keySharedPolicy),
    ("crypto", .bool o.decrypts),
    ("transaction_timeout", orNull duration o.transactionTimeout)]

end TopicFeed
