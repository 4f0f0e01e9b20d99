import TopicFeed.KeySpace.Layout
/-! Settings of a source as a user writes them, and what a setting left out means. -/
namespace TopicFeed

/-- How the consumers of a subscription share its messages. -/
inductive SubscriptionType where
  | exclusive
  | failover
  | shared
  | keyShared
  deriving DecidableEq

namespace SubscriptionType

def name : SubscriptionType → String
  | .exclusive => "exclusive"
  | .failover => "failover"
  | .shared => "shared"
  | .keyShared => "key_shared"

def title : SubscriptionType → String
  | .exclusive => "Exclusive"
  | .failover => "Failover"
  | .shared => "Shared"
  | .keyShared => "KeyShared"

def ofName? : String → Option SubscriptionType
  | "exclusive" => some .exclusive
  | "failover" => some .failover
  | "shared" => some .shared
  | "key_shared" => some .keyShared
  | _ => none

def isOrdered : SubscriptionType → Bool
  | .exclusive | .failover => true
  | .shared | .keyShared => false

end SubscriptionType

/-- Whether a subscription outlives its consumers. -/
inductive SubscriptionMode where
  | durable
  | nonDurable
  deriving DecidableEq

namespace SubscriptionMode

def name : SubscriptionMode → String
  | .durable => "durable"
  | .nonDurable => "non_durable"

def title : SubscriptionMode → String
  | .durable => "Durable"
  | .nonDurable => "NonDurable"

def ofName? : String → Option SubscriptionMode
  | "durable" => some .durable
  | "non_durable" => some .nonDurable
  | _ => none

end SubscriptionMode

/-- What happens when the position to start at lies beyond the last message. -/
inductive StartCheck where
  | failOnMismatch
  | warnOnMismatch
  | ignore
  deriving DecidableEq

namespace StartCheck

def name : StartCheck → String
  | .failOnMismatch => "fail_on_mismatch"
  | .warnOnMismatch => "warn_on_mismatch"
  | .ignore => "ignore"

def title : StartCheck → String
  | .failOnMismatch => "FailOnMismatch"
  | .warnOnMismatch => "WarnOnMismatch"
  | .ignore => "Ignore"

def ofName? : String → Option StartCheck
  | "fail_on_mismatch" => some .failOnMismatch
  | "warn_on_mismatch" => some .warnOnMismatch
  | "ignore" => some .ignore
  | _ => none

end StartCheck

/-- Settings before they are checked. -/
structure Settings where
  subscriptionName : String
  subscriptionType : SubscriptionType := .shared
  subscriptionMode : SubscriptionMode := .durable
  /-- How many messages a consumer may hold in advance. -/
  messageQueueCapacity : UInt64 := 1000
  /-- Milliseconds between discoveries; zero or less means a single one. -/
  partitionDiscoveryInterval : Int64 := 30000
  /-- Whether messages are acknowledged when consumed and not when a checkpoint completes. -/
  autoAcknowledge : Bool := false
  /-- Whether messages are read by the schema of their topic. -/
  schemaEvolution : Bool := false
  /-- Milliseconds between cumulative acknowledgements, when these are automatic. -/
  autoCommitCursorInterval : UInt64 := 5000
  /-- Milliseconds an acknowledgement may be held back. -/
  transactionTimeout : UInt64 := 10800000
  /-- How long one receive may take. -/
  defaultFetchTime : String := "100ms"
  /-- How long one fetch may take. -/
  maxFetchTime : String := "10s"
  /-- How many records one fetch may bring. -/
  maxFetchRecords : UInt64 := 100
  verifyInitialOffsets : StartCheck := .warnOnMismatch
  /-- Whether messages of one key may arrive out of order. -/
  outOfOrderDelivery : Bool := false
  /-- How the full key range of a key-shared subscription becomes splits. -/
  keySharedMode : Option String := none
  deriving DecidableEq

end TopicFeed
