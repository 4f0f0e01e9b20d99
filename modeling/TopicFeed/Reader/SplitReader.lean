import TopicFeed.Reader.Acknowledger
import TopicFeed.Reader.Records
import TopicFeed.Settings.Configuration
import TopicFeed.Split
/-! Reading one split through a consumer of its own, batch by batch. -/
namespace TopicFeed

/-- What readers of a source have in common. -/
structure ReaderContext where
  configuration : Configuration
  /-- Whether messages are decrypted. -/
  decrypts : Bool

/-- A change of the splits that a reader has. -/
inductive SplitsChange where
  | addition (splits : List Split)
  | removal (splits : List Split)

/-- A split that is being read. -/
structure ActiveSplit where
  split : Split
  consumer : ConsumerId
  acknowledger : Acknowledger
  finished : Bool
  finishReported : Bool

/-- A reader of at most one split. -/
structure SplitReader where
  context : ReaderContext
  active : Option ActiveSplit
  closed : Bool

namespace SplitReader

def new (context : ReaderContext) : SplitReader := ⟨context, none, false⟩

def splitId? (r : SplitReader) : Option String := r.active.map fun a => a.split.id

def isFinished (r : SplitReader) : Bool := r.active.any (·.finished)

def hasPendingAcknowledgements (r : SplitReader) : Bool :=
  r.active.any fun a => a.acknowledger.hasPending

/-- A split that starts at a message must not start beyond the last one. -/
def verifyStart (context : ReaderContext) (split : Split) : Exchange (Except Failure Unit) :=
  let check := context.configuration.verifyInitialOffsets
  match split.startPosition with
  | .publishTime _ => .done (.ok ())
  | .message id _ =>
    if check = .ignore || split.isResumed || !id.isConcrete then .done (.ok ())
    else do
      let topic := split.partition.fullName
      match ← Exchange.lastMessageId topic with
      | .error cause => return .error (.lastMessageId topic cause)
      | .ok last =>
        if check = .failOnMismatch ∧ !(last.isConcrete && (compare id last).isLE) then
          return .error (.initialPosition split.id split.startPosition last)
        else return .ok ()

/-- The type of the subscription to a partition. One consumer with all the ranges needs no share of
the keys. -/
def subscriptionType (configuration : Configuration) (partition : Partition) : SubscriptionType :=
  if configuration.subscriptionType = .keyShared ∧ partition.mode = .join then .exclusive
  else configuration.subscriptionType

def consumerOptions (context : ReaderContext) (partition : Partition) : ConsumerOptions :=
  let configuration := context.configuration
  { topic := partition.fullName
    subscriptionName := configuration.subscriptionName
    subscriptionType := subscriptionType configuration partition
    subscriptionMode := configuration.subscriptionMode
    receiverQueueSize := configuration.messageQueueCapacity
    keySharedPolicy :=
      if configuration.subscriptionType = .keyShared then
        some (.of partition.ranges configuration.outOfOrderDelivery)
      else none
    decrypts := context.decrypts
    transactionTimeout :=
      if configuration.autoAcknowledge then none else some configuration.transactionTimeout }

/-- Opens a split whose end is resolved: a new consumer, moved to where reading starts. -/
def subscribe (context : ReaderContext) (split : Split) :
    Exchange (Except Failure ActiveSplit) := do
  let options := consumerOptions context split.partition
  match ← Exchange.subscribe options with
  | .error cause => return .error (.createConsumer options.topic cause)
  | .ok consumer =>
    match ← Exchange.seek consumer split.seekPosition with
    | .error cause =>
      let _ ← Exchange.close consumer
      return .error (.seek split.id split.seekPosition cause)
    | .ok () =>
      let now ← Exchange.time
      return .ok {
        split, consumer
        acknowledger := .new split.id options.subscriptionType
          context.configuration.autoAcknowledge context.configuration.autoCommitCursorInterval now
        finished := split.stopCursor.isExhausted
        finishReported := false }

def openSplit (context : ReaderContext) (split : Split) :
    Exchange (Except Failure ActiveSplit) := do
  match ← Query.toExchange split.opened with
  | .error failure => return .error failure
  | .ok split =>
    match ← verifyStart context split with
    | .error failure => return .error failure
    | .ok () => subscribe context split

/-- Changes the splits of the reader, which can only be given one, once. -/
def changeSplits (r : SplitReader) (change : SplitsChange) :
    Exchange (SplitReader × Except Failure Unit) :=
  match change with
  | .removal _ => .done (r, .error (.unsupportedChange "removal"))
  | .addition splits =>
    if r.closed then .done (r, .error .readerClosed)
    else
      match splits, r.active with
      | [_], some active => .done (r, .error (.splitAlreadyAssigned active.split.id))
      | [split], none => do
        match ← openSplit r.context split with
        | .error failure => return (r, .error failure)
        | .ok active => return ({ r with active := some active }, .ok ())
      | _, _ => .done (r, .error (.splitCount splits.length))

/-- Reads messages until `budget` of them have come, the time is up, or the batch ends early: by a
wake-up, because nothing came, because receiving was interrupted or failed for now, or because the
split is finished. A message counts as consumed once it is acknowledged or noted for that. -/
def fetchLoop (configuration : Configuration) (deadline : Instant) :
    Nat → ActiveSplit → Records → Exchange (ActiveSplit × Except Failure Records)
  | 0, active, records => .done (active, .ok records)
  | budget + 1, active, records => do
    if ← Exchange.isWoken then return (active, .ok records)
    let now ← Exchange.time
    if deadline ≤ now then return (active, .ok records)
    let timeout := min (deadline.since now) configuration.defaultFetchTime
    match ← Exchange.receive active.consumer timeout with
    | .woken => return (active, .ok records)
    | .nothing => return (active, .ok records)
    | .failed cause =>
      if cause = .interrupted || cause.isTransient then return (active, .ok records)
      else return (active, .error (.poll active.split.id cause))
    | .message message =>
      let verdict := active.split.stopCursor.judge message
      if verdict = .terminate then
        return ({ active with finished := true, finishReported := true },
          .ok (records.markFinished active.split.id))
      else
        match ← active.acknowledger.afterConsume active.consumer message.id with
        | (acknowledger, .error failure) => return ({ active with acknowledger }, .error failure)
        | (acknowledger, .ok ()) =>
          let split := active.split.recordConsumed message.id
          let active := { active with acknowledger, split }
          let records := records.add active.split.id message
          if verdict = .exactly then
            return ({ active with finished := true, finishReported := true },
              .ok (records.markFinished active.split.id))
          else fetchLoop configuration deadline budget active records

/-- Reads one batch. A split that was finished from the start is reported once. The time that a
batch may take is added to the present without a check, so a deadline out of reach stops the
program. -/
def fetch (r : SplitReader) : Exchange (SplitReader × Except Failure Records) := do
  if r.closed then return (r, .error .readerClosed)
  Exchange.clearWake
  match r.active with
  | none => return (r, .ok .empty)
  | some active =>
    if active.finished then
      let records :=
        if active.finishReported then .empty else Records.empty.markFinished active.split.id
      return ({ r with active := some { active with finishReported := true } }, .ok records)
    else
      let configuration := r.context.configuration
      let now ← Exchange.time
      match now.after? configuration.maxFetchTime with
      | none => Exchange.abort
      | some deadline =>
        let (active, outcome) ←
          fetchLoop configuration deadline configuration.maxFetchRecords active .empty
        return ({ r with active := some active }, outcome)

/-- The split as it goes into a checkpoint, unless it is finished. -/
def snapshot (r : SplitReader) (checkpoint : UInt64) : SplitReader × Option Split :=
  match r.active with
  | none => (r, none)
  | some active =>
    ({ r with active := some { active with
        acknowledger := active.acknowledger.snapshot checkpoint } },
      if active.finished then none else some active.split)

def checkpointComplete (r : SplitReader) (checkpoint : UInt64) :
    Exchange (SplitReader × Except Failure Unit) :=
  match r.active with
  | none => .done (r, .ok ())
  | some active => do
    let (acknowledger, outcome) ←
      active.acknowledger.checkpointComplete active.consumer checkpoint
    return ({ r with active := some { active with acknowledger } }, outcome)

/-- Closes the consumer, once. What goes wrong does not keep the reader from being closed. -/
def close (r : SplitReader) : Exchange SplitReader :=
  if r.closed then .done r
  else
    match r.active with
    | none => .done { r with closed := true }
    | some active => do
      let _ ← active.acknowledger.flush active.consumer
      let _ ← Exchange.close active.consumer
      return { r with active := none, closed := true }

end SplitReader
end TopicFeed
