import TopicFeed.Collection.OrderedMap
import TopicFeed.Collection.OrderedSet
import TopicFeed.Message
/-! What one fetch brings: messages by split, and the splits that finished. -/
namespace TopicFeed

/-- The outcome of a fetch. -/
structure Records where
  bySplit : OrderedMap String (List Message)
  finished : OrderedSet String

namespace Records

def empty : Records := ⟨∅, ∅⟩

def of (r : Records) (splitId : String) : List Message := (r.bySplit.get? splitId).getD []

def add (r : Records) (splitId : String) (message : Message) : Records :=
  { r with bySplit := r.bySplit.insert splitId (r.of splitId ++ [message]) }

def markFinished (r : Records) (splitId : String) : Records :=
  { r with finished := r.finished.insert splitId }

/-- All messages, by split. -/
def messages (r : Records) : List Message := r.bySplit.values.flatten

def size (r : Records) : Nat := r.messages.length

def isEmpty (r : Records) : Bool := r.size == 0 && r.finished.isEmpty

end Records
end TopicFeed
