import TopicFeed.Enumerator.Basic
/-! Discoveries. A discovery asks for the partitions of the selected topics, leaves out the known
ones, resolves the ends of the new splits, and then adds and hands them out. Between these steps
the enumerator may change; it is looked at twice, each time in one atomic step. -/
namespace TopicFeed

/-- On whose behalf a discovery goes on. -/
inductive Purpose where
  /-- The start of the enumerator, which waits for it. -/
  | start
  | periodic
  deriving DecidableEq

/-- How far a discovery has come. -/
inductive Phase where
  /-- Asking for the partitions. -/
  | querying (query : Query (Except Failure (OrderedSet Partition)))
  /-- Resolving the ends of the new splits. -/
  | opening (opened : List Split) (unopened : List Partition)

/-- A discovery under way. -/
structure Discovery where
  purpose : Purpose
  phase : Phase

/-- What comes next in a discovery. -/
inductive Progress where
  | ask (question : AdminQuestion) (next : question.Reply → Discovery)
  | goOn (next : Discovery)
  /-- It is over, with the answer for whom it went on. -/
  | finish (enumerator : Enumerator) (directives : List Directive) (result : Except Failure Unit)

namespace Enumerator

def discover (e : Enumerator) (purpose : Purpose) (parallelism : UInt32) : Discovery :=
  ⟨purpose, .querying (e.options.selection.partitions e.options.layout parallelism)⟩

/-- Starts the enumerator, once. -/
def start (e : Enumerator) (parallelism : UInt32) :
    Except Failure (Enumerator × Option Discovery) :=
  match e.lifecycle with
  | .init =>
    let e := { e with lifecycle := .running }
    .ok (e, some (e.discover .start parallelism))
  | .running => .ok (e, none)
  | .closed => .error .enumeratorClosed

def splitOf (e : Enumerator) (partition : Partition) : Split :=
  .fresh partition e.options.startCursor.position e.options.stopCursor

/-- Adds splits whose partitions are still unknown, and hands out what waits. -/
def append (e : Enumerator) (readers : Readers) (splits : List Split) :
    Enumerator × List Directive :=
  { e with state := splits.foldl EnumeratorState.add e.state }.assignPending readers

/-- Ends a discovery. When it is the only one, its failure is reported, and its success means that
nothing is left to discover. -/
def conclude (e : Enumerator) (readers : Readers) (purpose : Purpose) (directives : List Directive)
    (outcome : Except Failure Unit) : Progress :=
  match purpose, e.period? with
  | .start, none =>
    match outcome with
    | .ok () =>
      let (e, signals) := { e with discoveryExhausted := true }.signal readers
      .finish e (directives ++ signals) (.ok ())
    | .error failure => .finish e directives (.error failure)
  | _, _ => .finish e directives (.ok ())

def advance (e : Enumerator) (readers : Readers) (d : Discovery) : Progress :=
  match d.phase with
  | .querying (.ask question next) =>
    .ask question fun reply => { d with phase := .querying (next reply) }
  | .querying (.done (.error failure)) => e.conclude readers d.purpose [] (.error failure)
  | .querying (.done (.ok found)) =>
    if e.lifecycle = .closed then e.conclude readers d.purpose [] (.ok ())
    else
      let fresh := found.toList.filter fun p => !e.state.appended.contains p
      .goOn { d with phase := .opening [] fresh }
  | .opening opened (partition :: unopened) =>
    let split := e.splitOf partition
    if split.stopCursor.needsResolving then
      .ask (.lastMessageId partition.fullName) fun reply =>
        { d with phase := .opening (opened ++ [split.resolveBy reply]) unopened }
    else .goOn { d with phase := .opening (opened ++ [split]) unopened }
  | .opening opened [] =>
    if e.lifecycle = .closed then e.conclude readers d.purpose [] (.ok ())
    else
      let (e, directives) := e.append readers opened
      e.conclude readers d.purpose directives (.ok ())

end Enumerator
end TopicFeed
