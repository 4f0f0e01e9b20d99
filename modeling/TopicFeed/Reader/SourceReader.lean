import TopicFeed.Reader.SplitReader
/-! Reading many splits, each through a reader of its own, in turns. -/
namespace TopicFeed

/-- A reader for each split that is not finished, by split id. -/
abbrev SplitReaders := OrderedMap String SplitReader

/-- The splits of one reader, and the turn they are in. -/
structure SourceReader where
  id : UInt32
  context : ReaderContext
  readers : SplitReaders
  /-- Readers of finished splits whose messages still wait to be acknowledged. -/
  retiring : SplitReaders
  finished : OrderedSet String
  /-- Counts the fetches, to take turns by. -/
  next : UInt64
  noMoreSplits : Bool
  closed : Bool

namespace SourceReader

def new (id : UInt32) (context : ReaderContext) : SourceReader :=
  { id, context
    readers := ∅
    retiring := ∅
    finished := ∅
    next := 0
    noMoreSplits := false
    closed := false }

def splitIds (r : SourceReader) : List String := r.readers.keys

/-- Opens splits one after the other; those before a failure stay. -/
def addEach (r : SourceReader) : List Split → Exchange (SourceReader × Except Failure Unit)
  | [] => .done (r, .ok ())
  | split :: rest =>
    if r.readers.contains split.id || r.finished.contains split.id then
      .done (r, .error (.splitAlreadyAssigned split.id))
    else
      ((SplitReader.new r.context).changeSplits (.addition [split])).bind fun
        | (_, .error failure) => .done (r, .error failure)
        | (reader, .ok ()) =>
          addEach { r with readers := r.readers.insert split.id reader } rest

/-- Adds splits, none of which may be known already. -/
def addSplits (r : SourceReader) (splits : List Split) :
    Exchange (SourceReader × Except Failure Unit) :=
  if r.closed then .done (r, .error .readerClosed) else r.addEach splits

/-- Puts away the reader of a split that has just finished: it is kept while messages wait to be
acknowledged, and closed otherwise. -/
def retire (r : SourceReader) (splitId : String) (reader : SplitReader) :
    Exchange SourceReader := do
  let r := { r with
    readers := r.readers.erase splitId
    finished := r.finished.insert splitId }
  if reader.hasPendingAcknowledgements then
    return { r with retiring := r.retiring.insert splitId reader }
  else
    let _ ← reader.close
    return r

def fetch (r : SourceReader) : Exchange (SourceReader × Except Failure Records) := do
  if r.closed then return (r, .error .readerClosed)
  match r.readers.entries[r.next.toNat % r.readers.size]? with
  | none => return (r, .ok .empty)
  | some (splitId, reader) =>
    let r := { r with next := r.next + 1 }
    let (reader, outcome) ← reader.fetch
    match outcome with
    | .error failure =>
      return ({ r with readers := r.readers.insert splitId reader }, .error failure)
    | .ok records =>
      if reader.isFinished then return (← r.retire splitId reader, .ok records)
      else return ({ r with readers := r.readers.insert splitId reader }, .ok records)

/-- The splits that are not finished, to be stored with a checkpoint. -/
def snapshot (r : SourceReader) (checkpoint : UInt64) : SourceReader × List Split :=
  ({ r with
      retiring := r.retiring.mapValues fun reader => (reader.snapshot checkpoint).1
      readers := r.readers.mapValues fun reader => (reader.snapshot checkpoint).1 },
    r.readers.values.filterMap fun reader => (reader.snapshot checkpoint).2)

/-- Tells readers that a checkpoint has completed, up to the first that fails. -/
def completeEach (checkpoint : UInt64) :
    List (String × SplitReader) → SplitReaders → Exchange (SplitReaders × Except Failure Unit)
  | [], readers => .done (readers, .ok ())
  | (splitId, reader) :: rest, readers =>
    (reader.checkpointComplete checkpoint).bind fun
      | (reader, .error failure) => .done (readers.insert splitId reader, .error failure)
      | (reader, .ok ()) => completeEach checkpoint rest (readers.insert splitId reader)

/-- Closes readers one after the other. -/
def closeEach : List (String × SplitReader) → Exchange Unit
  | [] => .done ()
  | (_, reader) :: rest => reader.close.bind fun _ => closeEach rest

/-- A checkpoint has completed. Readers of finished splits that wait for nothing more are closed. -/
def checkpointComplete (r : SourceReader) (checkpoint : UInt64) :
    Exchange (SourceReader × Except Failure Unit) := do
  let (readers, outcome) ← completeEach checkpoint r.readers.entries r.readers
  let r := { r with readers }
  match outcome with
  | .error failure => return (r, .error failure)
  | .ok () =>
    let (retiring, outcome) ← completeEach checkpoint r.retiring.entries r.retiring
    let r := { r with retiring }
    match outcome with
    | .error failure => return (r, .error failure)
    | .ok () =>
      closeEach (r.retiring.filter fun _ reader => !reader.hasPendingAcknowledgements).entries
      return ({ r with
        retiring := r.retiring.filter fun _ reader => reader.hasPendingAcknowledgements }, .ok ())

def signalNoMoreSplits (r : SourceReader) : SourceReader := { r with noMoreSplits := true }

def isFinished (r : SourceReader) : Bool := r.noMoreSplits && r.readers.isEmpty

def close (r : SourceReader) : Exchange SourceReader := do
  if r.closed then return r
  closeEach (r.readers.entries ++ r.retiring.entries)
  return { r with closed := true, readers := ∅, retiring := ∅ }

end SourceReader
end TopicFeed
