import TopicFeed.Enumerator.Assignment
import TopicFeed.Enumerator.State
import TopicFeed.Selection
import TopicFeed.Settings.Configuration
/-! The enumerator turns partitions into splits and hands them out to readers in turn. Each
operation is one atomic step: it takes the readers that are registered at the moment and tells the
runtime what to do by directives. -/
namespace TopicFeed

/-- What an enumerator discovers, and the splits it makes of it. -/
structure EnumeratorOptions where
  configuration : Configuration
  selection : Selection
  layout : KeyLayout
  startCursor : StartCursor
  stopCursor : StopCursor

/-- Whether an enumerator has started, and whether it has been closed. -/
inductive Lifecycle where
  | init
  | running
  | closed
  deriving DecidableEq

abbrev Readers := OrderedSet UInt32

/-- What an enumerator has been told to do, what it remembers, and what it did in this run. -/
structure Enumerator where
  options : EnumeratorOptions
  lifecycle : Lifecycle
  state : EnumeratorState
  /-- The reader each split was handed out to in this run. -/
  assigned : OrderedMap String UInt32
  /-- Counts the splits handed out, to take turns by. -/
  nextReader : UInt64
  /-- Whether no discovery is left to come. -/
  discoveryExhausted : Bool
  /-- The readers that were told that no more splits come. -/
  signalled : Readers

namespace Enumerator

/-- An enumerator that has not started. A source with an end discovers its partitions once. -/
def ofState (options : EnumeratorOptions) (state : EnumeratorState) : Enumerator where
  options :=
    if options.stopCursor.isBounded then
      { options with configuration := options.configuration.withoutPartitionDiscovery }
    else options
  lifecycle := .init
  state
  assigned := ∅
  nextReader := 0
  discoveryExhausted := false
  signalled := ∅

/-- Tells the readers that were not told yet, once nothing is left to hand out or discover. -/
def signal (e : Enumerator) (readers : Readers) : Enumerator × List Directive :=
  if !e.discoveryExhausted || !e.state.pending.isEmpty then (e, [])
  else
    ({ e with signalled := e.signalled.union readers },
      (readers.toList.filter fun r => !e.signalled.contains r).map .noMoreSplits)

/-- Hands splits out, each to the next reader in turn. -/
def deal (readers : List UInt32) (e : Enumerator) (assignment : Assignment) :
    List Split → Enumerator × Assignment
  | [] => (e, assignment)
  | split :: rest =>
    match readers[e.nextReader.toNat % readers.length]? with
    | none => (e, assignment)
    | some reader =>
      deal readers
        { e with nextReader := e.nextReader + 1, assigned := e.assigned.insert split.id reader }
        (assignment.add reader split) rest

/-- Hands all pending splits out, if there are readers. -/
def assignPending (e : Enumerator) (readers : Readers) : Enumerator × List Directive :=
  if readers.isEmpty || e.state.pending.isEmpty then e.signal readers
  else
    let (e, assignment) :=
      deal readers.toList { e with state := { e.state with pending := [] } } ∅ e.state.pending
    let (e, signals) := e.signal readers
    (e, .assign assignment :: signals)

/-- Fails once the enumerator is closed. -/
def checkOpen (e : Enumerator) : Except Failure Unit :=
  if e.lifecycle = .closed then .error .enumeratorClosed else .ok ()

def addReader (e : Enumerator) (readers : Readers) (reader : UInt32) :
    Except Failure (Enumerator × List Directive) := do
  e.checkOpen
  return { e with signalled := e.signalled.erase reader }.assignPending readers

def requestSplit (e : Enumerator) (readers : Readers) :
    Except Failure (Enumerator × List Directive) := do
  e.checkOpen
  return e.assignPending readers

/-- Takes one split back, unless it has finished or waits already. -/
def takeBack (e : Enumerator) (split : Split) : Enumerator :=
  let e := { e with assigned := e.assigned.erase split.id }
  if e.state.finished.contains split.id || e.state.pending.any fun p => p.id = split.id then e
  else { e with state := { e.state with pending := e.state.pending ++ [split] } }

/-- Takes back the splits of a reader that failed. They wait until a reader registers or asks. -/
def addSplitsBack (e : Enumerator) (splits : List Split) (reader : UInt32) :
    Except Failure Enumerator := do
  e.checkOpen
  return splits.foldl takeBack { e with signalled := e.signalled.erase reader }

/-- Splits have finished; they are never handed out again. -/
def finishSplits (e : Enumerator) (ids : List String) : Except Failure Enumerator := do
  e.checkOpen
  return { e with
    assigned := e.assigned.filter fun id _ => !ids.contains id
    state := { e.state with
      finished := ids.foldl OrderedSet.insert e.state.finished
      pending := e.state.pending.filter fun split => !ids.contains split.id } }

/-- Whether the source is finished: the only discovery is over and every split has finished. -/
def isFinished (e : Enumerator) : Bool := e.discoveryExhausted && e.state.allSplitsFinished

def close (e : Enumerator) : Enumerator := { e with lifecycle := .closed }

def closeTimeout : Duration := .ofSeconds 5

/-- The time between discoveries, if there is more than one. -/
def period? (e : Enumerator) : Option Duration := e.options.configuration.partitionDiscoveryInterval

end Enumerator
end TopicFeed
