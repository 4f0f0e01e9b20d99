import TopicFeed.Collection.OrderedMap
import TopicFeed.Failure
/-! Acknowledging what was consumed from a split: at once, or when a checkpoint completes that
covers it. -/
namespace TopicFeed

/-- How messages are acknowledged. -/
inductive AckStrategy where
  /-- Each by itself. -/
  | individual
  /-- The greatest of them, and with it all before it. -/
  | cumulative
  deriving DecidableEq

/-- What is left to acknowledge of one split. -/
structure Acknowledger where
  splitId : String
  strategy : AckStrategy
  automatic : Bool
  /-- The least time between automatic cumulative acknowledgements. -/
  commitInterval : Duration
  /-- When such an acknowledgement last went out, or the acknowledger was made. -/
  lastCommit : Instant
  /-- The last consumed message, while its automatic acknowledgement is held back. -/
  uncommitted : Option MessageId
  /-- Messages consumed since the last checkpoint. -/
  inFlight : List MessageId
  /-- Messages that wait for their checkpoint to complete. -/
  pending : OrderedMap UInt64 (List MessageId)

namespace Acknowledger

/-- An acknowledger for a subscription; ordered ones are acknowledged cumulatively. -/
def new (splitId : String) (type : SubscriptionType) (automatic : Bool)
    (commitInterval : Duration) (now : Instant) : Acknowledger :=
  { splitId, automatic, commitInterval
    strategy := if type.isOrdered then .cumulative else .individual
    lastCommit := now
    uncommitted := none
    inFlight := []
    pending := ∅ }

/-- Acknowledges one message after the other. A failure comes with the messages that are left. -/
def acknowledgeEach (splitId : String) (consumer : ConsumerId) :
    List MessageId → Exchange (Except (List MessageId × Failure) Unit)
  | [] => .done (.ok ())
  | id :: rest => do
    match ← Exchange.acknowledge consumer id with
    | .ok () => acknowledgeEach splitId consumer rest
    | .error cause => return .error (id :: rest, .acknowledge splitId id cause)

/-- Acknowledges messages by the strategy. A failure comes with the messages that are left. -/
def acknowledge (a : Acknowledger) (consumer : ConsumerId) (ids : List MessageId) :
    Exchange (Except (List MessageId × Failure) Unit) :=
  match a.strategy with
  | .individual => acknowledgeEach a.splitId consumer ids
  | .cumulative =>
    match MessageId.greatest? ids with
    | none => .done (.ok ())
    | some id => do
      match ← Exchange.acknowledgeUpTo consumer id with
      | .ok () => return .ok ()
      | .error cause => return .error (ids, .acknowledge a.splitId id cause)

/-- Sends the acknowledgement that is held back, if there is one. -/
def commit (a : Acknowledger) (consumer : ConsumerId) :
    Exchange (Acknowledger × Except Failure Unit) := do
  let outcome ← a.acknowledge consumer a.uncommitted.toList
  match outcome with
  | .error (_, failure) => return (a, .error failure)
  | .ok () =>
    let now ← Exchange.time
    return ({ a with uncommitted := none, lastCommit := now }, .ok ())

def afterConsume (a : Acknowledger) (consumer : ConsumerId) (id : MessageId) :
    Exchange (Acknowledger × Except Failure Unit) :=
  if !a.automatic then .done ({ a with inFlight := a.inFlight ++ [id] }, .ok ())
  else
    match a.strategy with
    | .individual => do
      match ← a.acknowledge consumer [id] with
      | .ok () => return (a, .ok ())
      | .error (_, failure) => return (a, .error failure)
    | .cumulative => do
      let a := { a with uncommitted := some id }
      let now ← Exchange.time
      if a.commitInterval ≤ now.since a.lastCommit then a.commit consumer else return (a, .ok ())

/-- Binds the messages consumed since the last checkpoint to this one. -/
def snapshot (a : Acknowledger) (checkpoint : UInt64) : Acknowledger :=
  if a.inFlight.isEmpty then a
  else
    { a with
      inFlight := []
      pending := a.pending.insert checkpoint ((a.pending.get? checkpoint).getD [] ++ a.inFlight) }

/-- Acknowledges what is bound to this checkpoint or an earlier one. What is left after a failure is
bound to this one. -/
def checkpointComplete (a : Acknowledger) (consumer : ConsumerId) (checkpoint : UInt64) :
    Exchange (Acknowledger × Except Failure Unit) := do
  let ids := (a.pending.filter fun c _ => c ≤ checkpoint).values.flatten
  let a := { a with pending := a.pending.filter fun c _ => checkpoint < c }
  match ← a.acknowledge consumer ids with
  | .ok () => return (a, .ok ())
  | .error (left, failure) =>
    return ({ a with pending := a.pending.insert checkpoint left }, .error failure)

/-- Sends what is held back before the consumer is closed. -/
def flush (a : Acknowledger) (consumer : ConsumerId) :
    Exchange (Acknowledger × Except Failure Unit) := a.commit consumer

def hasPending (a : Acknowledger) : Bool := !a.inFlight.isEmpty || !a.pending.isEmpty

end Acknowledger
end TopicFeed
