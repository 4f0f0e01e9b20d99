import TopicFeed.Message
/-! Where consumption ends. A stop cursor judges each message by itself. -/
namespace TopicFeed

/-- What a stop cursor says of a message. -/
inductive Verdict where
  /-- The message is emitted and more may follow. -/
  | proceed
  /-- The message is emitted and is the last one. -/
  | exactly
  /-- The message is beyond the end and dropped. -/
  | terminate
  deriving DecidableEq

namespace Verdict

protected def toString : Verdict → String
  | .proceed => "continue"
  | .exactly => "exactly"
  | .terminate => "terminate"

def emits : Verdict → Bool
  | .proceed | .exactly => true
  | .terminate => false

def finishes : Verdict → Bool
  | .exactly | .terminate => true
  | .proceed => false

theorem emits_iff {verdict : Verdict} : verdict.emits = true ↔ verdict ≠ .terminate := by
  cases verdict <;> simp [emits]

/-- Judges a value by a boundary that it may reach, when inclusive, but not pass. -/
def compare {α : Type} [Ord α] (boundary value : α) (inclusive : Bool) : Verdict :=
  match Ord.compare value boundary with
  | .lt => .proceed
  | .eq => if inclusive then .exactly else .terminate
  | .gt => .terminate

end Verdict

/-- Where the consumption of a split ends. The message at the boundary is left out by `at` and
taken in by `after`. -/
inductive StopCursor where
  | never
  /-- After the message that was the last one when the cursor was resolved. -/
  | latest (last : Option MessageId)
  | atMessage (id : MessageId)
  | afterMessage (id : MessageId)
  | atPublishTime (time : UInt64)
  | afterPublishTime (time : UInt64)
  | atEventTime (time : UInt64)
  | afterEventTime (time : UInt64)
  deriving DecidableEq

namespace StopCursor

instance : Inhabited StopCursor := ⟨.never⟩

def isBounded : StopCursor → Bool
  | .never => false
  | _ => true

/-- Whether the last message still has to be asked for. -/
def needsResolving : StopCursor → Bool
  | .latest none => true
  | _ => false

/-- Fixes the last message of a cursor that lacks it; any other cursor is kept. -/
def resolve (last : MessageId) : StopCursor → StopCursor
  | .latest none => .latest (some last)
  | cursor => cursor

theorem needsResolving_resolve (cursor : StopCursor) (last : MessageId) :
    (cursor.resolve last).needsResolving = false := by
  unfold resolve
  split
  · rfl
  · next other =>
    unfold needsResolving
    split
    · exact absurd rfl other
    · rfl

/-- Whether the end was resolved on an empty partition, so that there is nothing to read. -/
def isExhausted (cursor : StopCursor) : Bool := cursor == .latest (some .earliest)

def judge (cursor : StopCursor) (message : Message) : Verdict :=
  match cursor with
  | .never | .latest none => .proceed
  | .latest (some last) => .compare last message.id true
  | .atMessage id => .compare id message.id false
  | .afterMessage id => .compare id message.id true
  | .atPublishTime time => .compare time message.publishTime false
  | .afterPublishTime time => .compare time message.publishTime true
  | .atEventTime time => .compare time message.effectiveEventTime false
  | .afterEventTime time => .compare time message.effectiveEventTime true

end StopCursor
end TopicFeed
