import TopicFeed.Broker
import TopicFeed.Checkpoint.Format
import TopicFeed.Settings.Fault
/-! What can go wrong, as causes, and the words for it. -/
namespace TopicFeed

/-- Why a topic pattern was refused. -/
inductive PatternFault where
  | malformed
  /-- The automaton for the pattern would be too large. -/
  | tooLarge
  deriving DecidableEq

/-- Why bytes are no checkpoint. -/
inductive CheckpointFault where
  /-- There are too few bytes for a version. -/
  | short (length : Nat)
  | body (fault : DecodeFault)
  deriving DecidableEq

/-- A failure of the source. -/
inductive Failure where
  | invalidSettings (fault : SettingsFault)
  | invalidPattern (pattern : String) (fault : PatternFault)
  | invalidRanges (fault : RangeFault)
  | unsupportedMode (name : String)
  | unsupportedChange (kind : String)
  | splitAlreadyAssigned (splitId : String)
  | splitCount (count : Nat)
  | readerClosed
  | enumeratorClosed
  | topicMetadata (topic : String) (cause : BrokerError)
  | listTopics (space : String) (cause : BrokerError)
  | lastMessageId (topic : String) (cause : BrokerError)
  | createConsumer (topic : String) (cause : BrokerError)
  | seek (splitId : String) (position : Position) (cause : BrokerError)
  | poll (splitId : String) (cause : BrokerError)
  | acknowledge (splitId : String) (id : MessageId) (cause : BrokerError)
  | initialPosition (splitId : String) (position : Position) (last : MessageId)
  | unknownVersion (version : Nat)
  | corruptedCheckpoint (fault : CheckpointFault)
  deriving DecidableEq

/-- The greatest size of the automaton of a pattern, in bytes. -/
def patternSizeLimit : Nat := 10485760

def currentVersion : Nat := 2

/-- The number of bytes of a version. -/
def versionLength : Nat := 4

namespace PatternFault

def message (pattern : String) : PatternFault → String
  | .malformed => "invalid topic pattern '" ++ pattern ++ "'"
  | .tooLarge =>
    "invalid topic pattern '" ++ pattern ++ "': Compiled regex exceeds size limit of " ++
      patternSizeLimit.repr ++ " bytes."

end PatternFault

namespace CheckpointFault

def message : CheckpointFault → String
  | .short length =>
    s!"checkpoint has {length} bytes, the version alone takes {versionLength}"
  | .body fault => fault.message

end CheckpointFault

namespace Failure

/-- The failure in words. What the broker said is left to `cause?`. -/
def message : Failure → String
  | .invalidSettings fault => "Invalid configuration: " ++ fault.message
  | .invalidPattern pattern fault => "Invalid configuration: " ++ fault.message pattern
  | .invalidRanges fault => "Invalid topic ranges: " ++ fault.message
  | .unsupportedMode name => "Key shared mode " ++ name ++ " isn't supported"
  | .unsupportedChange kind => "The split change type of " ++ kind ++ " is not supported"
  | .splitAlreadyAssigned splitId =>
    "This split reader already has an assigned split: " ++ splitId
  | .splitCount count => "This split reader only supports one split, received: " ++ count.repr
  | .readerClosed => "Split reader is closed"
  | .enumeratorClosed => "Split enumerator is closed"
  | .topicMetadata topic _ => "Failed to query metadata of topic: " ++ topic
  | .listTopics space _ => "Failed to list topics of namespace: " ++ space
  | .lastMessageId topic _ => "Failed to resolve the last message id of topic: " ++ topic
  | .createConsumer topic _ => "Failed to create consumer for topic: " ++ topic
  | .seek splitId position _ =>
    "Failed to seek consumer of split " ++ splitId ++ " to " ++ position.toString
  | .poll splitId _ => "Failed to poll message for split: " ++ splitId
  | .acknowledge splitId id _ =>
    "Failed to acknowledge message " ++ id.toString ++ " for split: " ++ splitId
  | .initialPosition splitId position last =>
    "Initial position " ++ position.toString ++ " of split " ++ splitId ++
      " is beyond the last message " ++ last.toString
  | .unknownVersion version =>
    s!"Unknown checkpoint version: {version}, the latest supported version is {currentVersion}"
  | .corruptedCheckpoint fault => "Corrupted checkpoint: " ++ fault.message

def cause? : Failure → Option BrokerError
  | .topicMetadata _ cause | .listTopics _ cause | .lastMessageId _ cause
  | .createConsumer _ cause | .seek _ _ cause | .poll _ cause | .acknowledge _ _ cause =>
    some cause
  | _ => none

end Failure

namespace ShareMode

def parse (name : String) : Except Failure ShareMode :=
  match ofName? name with
  | some mode => .ok mode
  | none => .error (.unsupportedMode name)

end ShareMode
end TopicFeed
