import TopicFeed.Settings.Configuration
/-! A small setting in which runs can be written down. -/
namespace TopicFeed
namespace Sample

/-- Messages are acknowledged one by one as they are consumed, and partitions discovered once. -/
def configuration : Configuration where
  subscriptionName := "s"
  subscriptionType := .shared
  subscriptionMode := .durable
  messageQueueCapacity := 1
  partitionDiscoveryInterval := none
  autoAcknowledge := true
  schemaEvolution := false
  autoCommitCursorInterval := .ofSeconds 5
  transactionTimeout := .ofSeconds 5
  defaultFetchTime := .ofMilliseconds 100
  maxFetchTime := .ofSeconds 10
  maxFetchRecords := 5
  verifyInitialOffsets := .ignore
  outOfOrderDelivery := false
  keySharedMode := none

end Sample
end TopicFeed
