import TopicFeed.Message
/-! Positions where consumption starts. -/
namespace TopicFeed

/-- Where a consumer starts to read. -/
inductive Position where
  /-- At a message, or right after it. -/
  | message (id : MessageId) (inclusive : Bool)
  /-- At the first message published no earlier than a time. -/
  | publishTime (time : UInt64)
  deriving DecidableEq

namespace Position

def earliest : Position := .message .earliest true

def latest : Position := .message .latest false

/-- Right after a message that has been consumed. -/
def after (id : MessageId) : Position := .message id false

protected def toString : Position → String
  | .message id true => "[" ++ id.toString
  | .message id false => "(" ++ id.toString
  | .publishTime time => "publish_time:" ++ time.toNat.repr

end Position

/-- Where the consumption of a new partition starts. -/
inductive StartCursor where
  | earliest
  | latest
  | fromMessage (id : MessageId) (inclusive : Bool)
  | fromPublishTime (time : UInt64)
  deriving DecidableEq

namespace StartCursor

instance : Inhabited StartCursor := ⟨.earliest⟩

def position : StartCursor → Position
  | .earliest => .earliest
  | .latest => .latest
  | .fromMessage id inclusive => .message id inclusive
  | .fromPublishTime time => .publishTime time

end StartCursor
end TopicFeed
