import TopicFeed.Failure
import TopicFeed.Settings.Basic
/-! Settings that have been checked, as the enumerator and the readers use them. -/
namespace TopicFeed

/-- Checked settings. -/
structure Configuration where
  subscriptionName : String
  subscriptionType : SubscriptionType
  subscriptionMode : SubscriptionMode
  messageQueueCapacity : Nat
  /-- The time between discoveries, if there is more than one. -/
  partitionDiscoveryInterval : Option Duration
  autoAcknowledge : Bool
  schemaEvolution : Bool
  autoCommitCursorInterval : Duration
  transactionTimeout : Duration
  defaultFetchTime : Duration
  maxFetchTime : Duration
  maxFetchRecords : Nat
  verifyInitialOffsets : StartCheck
  outOfOrderDelivery : Bool
  keySharedMode : Option ShareMode
  deriving DecidableEq

namespace Configuration

def isPartitionDiscoveryEnabled (c : Configuration) : Bool := c.partitionDiscoveryInterval.isSome

def withoutPartitionDiscovery (c : Configuration) : Configuration :=
  { c with partitionDiscoveryInterval := none }

def readDuration (name value : String) : Except Failure Duration :=
  (Duration.parse value).mapError fun fault => .invalidSettings (.duration name value fault)

/-- The mode a setting names, if it names one. -/
def readMode : Option String → Except Failure (Option ShareMode)
  | none => .ok none
  | some name => (ShareMode.parse name).map some

/-- Checks settings; of several faults the first in this order is reported. -/
def ofSettings (s : Settings) : Except Failure Configuration := do
  if isBlankText s.subscriptionName then throw (.invalidSettings .emptySubscriptionName)
  if s.messageQueueCapacity = 0 then throw (.invalidSettings .zeroMessageQueueCapacity)
  if s.maxFetchRecords = 0 then throw (.invalidSettings .zeroMaxFetchRecords)
  if s.autoCommitCursorInterval = 0 then throw (.invalidSettings .zeroAutoCommitCursorInterval)
  let defaultFetchTime ← readDuration "default_fetch_time" s.defaultFetchTime
  let maxFetchTime ← readDuration "max_fetch_time" s.maxFetchTime
  if defaultFetchTime.isZero || maxFetchTime.isZero then throw (.invalidSettings .zeroFetchTime)
  let keySharedMode ← readMode s.keySharedMode
  return {
    subscriptionName := s.subscriptionName
    subscriptionType := s.subscriptionType
    subscriptionMode := s.subscriptionMode
    messageQueueCapacity := s.messageQueueCapacity.toNat
    partitionDiscoveryInterval :=
      if 0 < s.partitionDiscoveryInterval then
        some (.ofMilliseconds s.partitionDiscoveryInterval.toUInt64)
      else none
    autoAcknowledge := s.autoAcknowledge
    schemaEvolution := s.schemaEvolution
    autoCommitCursorInterval := .ofMilliseconds s.autoCommitCursorInterval
    transactionTimeout := .ofMilliseconds s.transactionTimeout
    defaultFetchTime
    maxFetchTime
    maxFetchRecords := s.maxFetchRecords.toNat
    verifyInitialOffsets := s.verifyInitialOffsets
    outOfOrderDelivery := s.outOfOrderDelivery
    keySharedMode
  }

end Configuration
end TopicFeed
