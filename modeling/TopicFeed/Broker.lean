import TopicFeed.Cursor.Position
import TopicFeed.Dialogue
import TopicFeed.Duration
import TopicFeed.Settings.Basic
import TopicFeed.Topic.Partition
/-! What is asked of a broker, and how it may answer. -/
namespace TopicFeed

/-- An answer that is no success. -/
inductive BrokerError where
  | notFound (topic : String)
  | interrupted
  | execution (reason : String)
  | alreadyClosed
  | broker (reason : String)
  deriving DecidableEq

namespace BrokerError

def message : BrokerError → String
  | .notFound topic => "Topic not found: " ++ topic
  | .interrupted => "Operation was interrupted"
  | .execution reason => "Execution failed: " ++ reason
  | .alreadyClosed => "Consumer is already closed"
  | .broker reason => "Broker error: " ++ reason

def isTransient : BrokerError → Bool
  | .execution _ => true
  | _ => false

end BrokerError

/-- What is asked about topics. -/
inductive AdminQuestion where
  | metadata (topic : String)
  /-- The complete names of the topics, or of their partitions, in a namespace. -/
  | topics (space : String)
  /-- The id of the last message, or the earliest id if there is none. -/
  | lastMessageId (topic : String)
  deriving DecidableEq

abbrev AdminQuestion.Reply : AdminQuestion → Type
  | .metadata _ => Except BrokerError TopicMetadata
  | .topics _ => Except BrokerError (List String)
  | .lastMessageId _ => Except BrokerError MessageId

abbrev Query := Dialogue AdminQuestion.Reply

/-- The hashes that a consumer with a share of the keys claims, by their bounds. -/
structure StickyPolicy where
  ranges : List (Nat × Nat)
  outOfOrderDelivery : Bool
  deriving DecidableEq

def StickyPolicy.of (ranges : List KeyRange) (outOfOrderDelivery : Bool) : StickyPolicy :=
  ⟨ranges.map KeyRange.inclusive, outOfOrderDelivery⟩

/-- How a consumer is to be set up. -/
structure ConsumerOptions where
  topic : String
  subscriptionName : String
  subscriptionType : SubscriptionType
  subscriptionMode : SubscriptionMode
  receiverQueueSize : Nat
  keySharedPolicy : Option StickyPolicy
  /-- Whether messages are decrypted. -/
  decrypts : Bool
  /-- How long acknowledgements may be held back until a checkpoint completes. -/
  transactionTimeout : Option Duration
  deriving DecidableEq

/-- A consumer, by the number under which its subscription was made. -/
structure ConsumerId where
  number : Nat
  deriving DecidableEq

/-- The outcome of waiting for a message. -/
inductive Receipt where
  | message (message : Message)
  /-- Nothing came in time. -/
  | nothing
  /-- A wake-up ended the wait, and no message was taken. -/
  | woken
  | failed (error : BrokerError)

/-- What a reader asks: of the broker, of the clock and of its wake-up flag. What it cannot go on
from is put as a question that has no reply. -/
inductive Question where
  | admin (question : AdminQuestion)
  | subscribe (options : ConsumerOptions)
  | receive (consumer : ConsumerId) (timeout : Duration)
  | acknowledge (consumer : ConsumerId) (id : MessageId)
  /-- Acknowledges a message and all before it. -/
  | acknowledgeUpTo (consumer : ConsumerId) (id : MessageId)
  | seek (consumer : ConsumerId) (position : Position)
  | close (consumer : ConsumerId)
  | time
  | isWoken
  | clearWake
  /-- The program stops: a point in time cannot be told. -/
  | abort
  deriving DecidableEq

abbrev Question.Reply : Question → Type
  | .admin question => question.Reply
  | .subscribe _ => Except BrokerError ConsumerId
  | .receive _ _ => Receipt
  | .acknowledge _ _ => Except BrokerError Unit
  | .acknowledgeUpTo _ _ => Except BrokerError Unit
  | .seek _ _ => Except BrokerError Unit
  | .close _ => Except BrokerError Unit
  | .time => Instant
  | .isWoken => Bool
  | .clearWake => Unit
  | .abort => Empty

abbrev Exchange := Dialogue Question.Reply

/-- A conversation about topics, held by a reader. -/
def Query.toExchange {α : Type} : Query α → Exchange α
  | .done a => .done a
  | .ask question next => .ask (.admin question) fun reply => Query.toExchange (next reply)

namespace Exchange

def lastMessageId (topic : String) : Exchange (Except BrokerError MessageId) :=
  .ask (.admin (.lastMessageId topic)) .done

def subscribe (options : ConsumerOptions) : Exchange (Except BrokerError ConsumerId) :=
  .ask (.subscribe options) .done

def receive (consumer : ConsumerId) (timeout : Duration) : Exchange Receipt :=
  .ask (.receive consumer timeout) .done

def acknowledge (consumer : ConsumerId) (id : MessageId) : Exchange (Except BrokerError Unit) :=
  .ask (.acknowledge consumer id) .done

def acknowledgeUpTo (consumer : ConsumerId) (id : MessageId) :
    Exchange (Except BrokerError Unit) :=
  .ask (.acknowledgeUpTo consumer id) .done

def seek (consumer : ConsumerId) (position : Position) : Exchange (Except BrokerError Unit) :=
  .ask (.seek consumer position) .done

def close (consumer : ConsumerId) : Exchange (Except BrokerError Unit) :=
  .ask (.close consumer) .done

def time : Exchange Instant := .ask .time .done

def isWoken : Exchange Bool := .ask .isWoken .done

def clearWake : Exchange Unit := .ask .clearWake .done

def abort {α : Type} : Exchange α := .ask .abort nofun

end Exchange
end TopicFeed
