import TopicFeed.Checkpoint.Blob
import TopicFeed.Enumerator.Discovery
import TopicFeed.Reader.SourceReader
/-! A source: from it the enumerator and the readers are made. -/
namespace TopicFeed

/-- What to consume, how, from where to where. -/
structure Source where
  configuration : Configuration
  selection : Selection
  layout : KeyLayout
  startCursor : StartCursor
  stopCursor : StopCursor
  decrypts : Bool

namespace Source

/-- The layout of a source unless another is given. Only readers that share the keys ask for one. -/
def defaultLayout (configuration : Configuration) : KeyLayout :=
  match configuration.keySharedMode with
  | some mode =>
    if configuration.subscriptionType = .keyShared then .fixed [.full] mode else .whole
  | none => .whole

/-- A source that starts at the begin and never ends. -/
def ofSettings (settings : Settings) (selection : Selection) : Except Failure Source := do
  let configuration ← Configuration.ofSettings settings
  return {
    configuration, selection
    layout := defaultLayout configuration
    startCursor := .earliest
    stopCursor := .never
    decrypts := false }

/-- The source with another layout. Readers that do not share the keys consume all of them. -/
def withLayout (s : Source) (layout : KeyLayout) : Source :=
  if s.configuration.subscriptionType = .keyShared then { s with layout } else s

def withStartCursor (s : Source) (startCursor : StartCursor) : Source := { s with startCursor }

def withStopCursor (s : Source) (stopCursor : StopCursor) : Source := { s with stopCursor }

def withDecryption (s : Source) : Source := { s with decrypts := true }

def isBounded (s : Source) : Bool := s.stopCursor.isBounded

def enumeratorFrom (s : Source) (state : EnumeratorState) : Enumerator :=
  .ofState ⟨s.configuration, s.selection, s.layout, s.startCursor, s.stopCursor⟩ state

def createEnumerator (s : Source) : Enumerator := s.enumeratorFrom .empty

def restoreEnumerator (s : Source) (checkpoint : List UInt8) : Except Failure Enumerator := do
  return s.enumeratorFrom (← Checkpoint.decodeState checkpoint)

def readerContext (s : Source) : ReaderContext := ⟨s.configuration, s.decrypts⟩

def createReader (s : Source) (id : UInt32) : SourceReader := .new id s.readerContext

end Source
end TopicFeed
