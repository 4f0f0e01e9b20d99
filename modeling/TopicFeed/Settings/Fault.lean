import TopicFeed.Duration.Parser
/-! Why settings are refused. -/
namespace TopicFeed

/-- A fault in a setting. -/
inductive SettingsFault where
  | emptySubscriptionName
  | zeroMessageQueueCapacity
  | zeroMaxFetchRecords
  | zeroAutoCommitCursorInterval
  /-- The value of the named setting is not a span of time. -/
  | duration (name value : String) (fault : Duration.Fault)
  | zeroFetchTime
  deriving DecidableEq

namespace SettingsFault

def message : SettingsFault → String
  | .emptySubscriptionName => "subscription_name cannot be empty"
  | .zeroMessageQueueCapacity => "message_queue_capacity must be greater than 0"
  | .zeroMaxFetchRecords => "max_fetch_records must be greater than 0"
  | .zeroAutoCommitCursorInterval => "auto_commit_cursor_interval_ms must be greater than 0"
  | .duration name value fault => name ++ ": '" ++ value ++ "' is not a duration: " ++ fault.message
  | .zeroFetchTime => "fetch times must be greater than 0"

end SettingsFault
end TopicFeed
