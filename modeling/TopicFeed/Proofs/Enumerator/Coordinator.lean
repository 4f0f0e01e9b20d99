import TopicFeed.Proofs.Enumerator.Operations
import TopicFeed.Proofs.Run
/-! An enumerator at work. Any number of discoveries are under way while it is called, in any order;
a turn takes one call, or one discovery one step further. -/
namespace TopicFeed

/-- What can be the next thing to happen to an enumerator. -/
inductive Operation where
  | start (parallelism : UInt32)
  /-- It is time for another discovery. -/
  | tick (parallelism : UInt32)
  /-- A discovery goes on, and the broker answers what it asks. -/
  | discovery (index : Nat) (broker : (question : AdminQuestion) → question.Reply)
  | addReader (reader : UInt32)
  | requestSplit
  | addSplitsBack (splits : List Split) (reader : UInt32)
  | finishSplits (ids : List String)
  | close

/-- The ids of the splits that a caller returns or reports finished. -/
def Operation.reported : Operation → List String
  | .addSplitsBack splits _ => splits.map Split.id
  | .finishSplits ids => ids
  | _ => []

structure Coordinator where
  enumerator : Enumerator
  discoveries : List Discovery

/-- Where a turn leads, what the runtime is told, and what is returned to a caller who no longer
waits. -/
structure Turn where
  next : Coordinator
  directives : List Directive
  result : Option (Except Failure Unit)

namespace Coordinator

def ofState (options : EnumeratorOptions) (state : EnumeratorState) : Coordinator :=
  ⟨.ofState options state, []⟩

variable (c : Coordinator)

/-- Whether a start is waiting for its discovery. Nobody else can start or close meanwhile. -/
def isStarting : Bool := c.discoveries.any fun d => d.purpose = .start

def idle : Turn := ⟨c, [], none⟩

def called : Except Failure (Enumerator × List Directive) → Turn
  | .error failure => ⟨c, [], some (.error failure)⟩
  | .ok (e, directives) => ⟨{ c with enumerator := e }, directives, some (.ok ())⟩

def proceed (readers : Readers) (index : Nat)
    (broker : (question : AdminQuestion) → question.Reply) (d : Discovery) : Turn :=
  match c.enumerator.advance readers d with
  | .ask question next =>
    ⟨{ c with discoveries := c.discoveries.set index (next (broker question)) }, [], none⟩
  | .goOn next => ⟨{ c with discoveries := c.discoveries.set index next }, [], none⟩
  | .finish e directives result =>
    ⟨⟨e, c.discoveries.eraseIdx index⟩, directives,
      if d.purpose = .start then some result else none⟩

def start (parallelism : UInt32) : Turn :=
  if c.isStarting then c.idle
  else
    match c.enumerator.start parallelism with
    | .error failure => ⟨c, [], some (.error failure)⟩
    | .ok (e, none) => ⟨{ c with enumerator := e }, [], some (.ok ())⟩
    | .ok (e, some d) => ⟨⟨e, c.discoveries ++ [d]⟩, [], none⟩

def tick (parallelism : UInt32) : Turn :=
  if c.enumerator.lifecycle = .init || c.enumerator.period?.isNone then c.idle
  else
    ⟨{ c with discoveries := c.discoveries ++ [c.enumerator.discover .periodic parallelism] },
      [], none⟩

/-- What an operation does, with the readers that are registered at the moment. -/
def perform (readers : Readers) : Operation → Turn
  | .start parallelism => c.start parallelism
  | .tick parallelism => c.tick parallelism
  | .discovery index broker => (c.discoveries[index]?).elim c.idle (c.proceed readers index broker)
  | .addReader reader => c.called (c.enumerator.addReader readers reader)
  | .requestSplit => c.called (c.enumerator.requestSplit readers)
  | .addSplitsBack splits reader =>
    c.called ((c.enumerator.addSplitsBack splits reader).map (·, []))
  | .finishSplits ids => c.called ((c.enumerator.finishSplits ids).map (·, []))
  | .close => if c.isStarting then c.idle else c.called (.ok (c.enumerator.close, []))

end Coordinator

structure Event where
  operation : Operation
  readers : Readers
  directives : List Directive
  result : Option (Except Failure Unit)

namespace Event

def handed (event : Event) : List Split := handedOut event.directives

end Event

/-- What happens in a turn. -/
def Coordinator.event (c : Coordinator) (readers : Readers) (operation : Operation) : Event :=
  ⟨operation, readers, (c.perform readers operation).directives,
    (c.perform readers operation).result⟩

inductive Coordinator.Step (c : Coordinator) : Event → Coordinator → Prop
  | perform (operation : Operation) (readers : Readers) :
      Step c
        ⟨operation, readers, (c.perform readers operation).directives,
          (c.perform readers operation).result⟩
        (c.perform readers operation).next

/-- An enumerator made from a state, and what has happened to it since. -/
structure History where
  options : EnumeratorOptions
  state : EnumeratorState
  events : List Event
  current : Coordinator
  runs : Runs Coordinator.Step (.ofState options state) events current

/-- A history that goes on. -/
def History.extend (h : History) {events : List Event} {last : Coordinator}
    (later : Runs Coordinator.Step h.current events last) : History :=
  ⟨h.options, h.state, h.events ++ events, last, Runs.append_iff.mpr ⟨_, h.runs, later⟩⟩

/-- A turn of a history, with what came before and after it. -/
structure History.Passes (h : History) (before : List Event) (c : Coordinator) (event : Event)
    (next : Coordinator) (after : List Event) : Prop where
  whole : h.events = before ++ event :: after
  past : Runs Coordinator.Step (.ofState h.options h.state) before c
  step : c.Step event next
  future : Runs Coordinator.Step next after h.current

theorem History.passes_of_split {h : History} {before after : List Event} {event : Event}
    (whole : h.events = before ++ event :: after) :
    ∃ c next, h.Passes before c event next after := by
  have runs := h.runs
  rw [whole] at runs
  obtain ⟨c, past, rest⟩ := Runs.append_iff.mp runs
  cases rest with
  | cons step future => exact ⟨c, _, whole, past, step, future⟩

/-- Only splits that were handed out in an earlier turn are returned or reported finished. -/
def History.Orderly (h : History) : Prop :=
  ∀ i, (within : i < h.events.length) → ∀ id ∈ h.events[i].operation.reported,
    ∃ earlier ∈ h.events.take i, ∃ split ∈ earlier.handed, split.id = id

instance (h : History) : Decidable h.Orderly :=
  inferInstanceAs (Decidable (∀ i, (within : i < h.events.length) →
    ∀ id ∈ h.events[i].operation.reported,
      ∃ earlier ∈ h.events.take i, ∃ split ∈ earlier.handed, split.id = id))

theorem History.Orderly.reported {h : History} (orderly : h.Orderly) {before after : List Event}
    {event : Event} (whole : h.events = before ++ event :: after) :
    ∀ id ∈ event.operation.reported, ∃ earlier ∈ before, ∃ split ∈ earlier.handed,
      split.id = id := by
  have within : before.length < h.events.length := by
    rw [whole, List.length_append, List.length_cons]
    omega
  have here : h.events[before.length] = event := by simp [whole]
  have taken : h.events.take before.length = before := by simp [whole]
  have known := orderly before.length within
  rw [here, taken] at known
  exact known

/-- What a turn can do to an enumerator, and what the runtime is told of it. -/
inductive Enumerator.Change (e : Enumerator) (readers : Readers) :
    Operation → List Directive → Enumerator → Prop
  | idle {operation} : Change e readers operation [] e
  | started {parallelism} : e.lifecycle = .init →
      Change e readers (.start parallelism) [] { e with lifecycle := .running }
  | closed : Change e readers .close [] e.close
  | readerAdded {reader} : e.lifecycle ≠ .closed →
      Change e readers (.addReader reader)
        ({ e with signalled := e.signalled.erase reader }.assignPending readers).2
        ({ e with signalled := e.signalled.erase reader }.assignPending readers).1
  | requested : e.lifecycle ≠ .closed →
      Change e readers .requestSplit (e.assignPending readers).2 (e.assignPending readers).1
  | takenBack {splits reader} : e.lifecycle ≠ .closed →
      Change e readers (.addSplitsBack splits reader) []
        (splits.foldl takeBack { e with signalled := e.signalled.erase reader })
  | finished {ids e'} : e.finishSplits ids = .ok e' → Change e readers (.finishSplits ids) [] e'
  | abandoned {index broker purpose outcome directives e' result} :
      e.conclude readers purpose [] outcome = .finish e' directives result →
      Change e readers (.discovery index broker) directives e'
  | appended {index broker purpose splits directives e' result} : e.lifecycle ≠ .closed →
      (e.append readers splits).1.conclude readers purpose (e.append readers splits).2 (.ok ()) =
        .finish e' directives result →
      Change e readers (.discovery index broker) directives e'

namespace Coordinator

variable (c : Coordinator) (readers : Readers)

theorem perform_discovery (index : Nat) (broker : (question : AdminQuestion) → question.Reply) :
    c.perform readers (.discovery index broker) =
      (c.discoveries[index]?).elim c.idle (c.proceed readers index broker) := rfl

section FinishSplits

variable {c} {ids : List String}

theorem perform_finishSplits {e : Enumerator} (ended : c.enumerator.finishSplits ids = .ok e) :
    c.perform readers (.finishSplits ids) = ⟨{ c with enumerator := e }, [], some (.ok ())⟩ := by
  rw [perform, ended]
  rfl

theorem perform_finishSplits_refused {failure : Failure}
    (ended : c.enumerator.finishSplits ids = .error failure) :
    c.perform readers (.finishSplits ids) = ⟨c, [], some (.error failure)⟩ := by
  rw [perform, ended]
  rfl

end FinishSplits

theorem start_change (parallelism : UInt32) :
    c.enumerator.Change readers (.start parallelism) (c.start parallelism).directives
      (c.start parallelism).next.enumerator := by
  rw [start]
  split
  · exact .idle
  · rw [Enumerator.start]
    split
    · next started =>
      split at started
      · exact nomatch started
      · exact nomatch started
      · exact .idle
    · next started =>
      split at started
      · exact nomatch started
      · cases started
        exact .idle
      · exact nomatch started
    · next started =>
      split at started
      · next fresh =>
        cases started
        exact .started fresh
      · exact nomatch started
      · exact nomatch started

theorem proceed_change (index : Nat) (broker : (question : AdminQuestion) → question.Reply)
    (d : Discovery) :
    c.enumerator.Change readers (.discovery index broker)
      (c.proceed readers index broker d).directives
      (c.proceed readers index broker d).next.enumerator := by
  rw [proceed]
  split
  · exact .idle
  · exact .idle
  · next e directives result ended =>
    unfold Enumerator.advance at ended
    split at ended
    · exact nomatch ended
    · exact .abandoned ended
    · split at ended
      · exact .abandoned ended
      · exact nomatch ended
    · dsimp only at ended
      split at ended
      · exact nomatch ended
      · exact nomatch ended
    · split at ended
      · exact .abandoned ended
      · next running => exact .appended running ended

theorem perform_change (operation : Operation) :
    c.enumerator.Change readers operation (c.perform readers operation).directives
      (c.perform readers operation).next.enumerator := by
  cases operation with
  | start parallelism => exact c.start_change readers parallelism
  | tick parallelism =>
      rw [perform, tick]
      split <;> exact .idle
  | discovery index broker =>
      rw [perform]
      cases c.discoveries[index]? with
      | none => exact .idle
      | some d => exact c.proceed_change readers index broker d
  | addReader reader =>
      rw [perform, Enumerator.addReader, Enumerator.checkOpen_bind]
      split
      · exact .idle
      · next running => exact .readerAdded running
  | requestSplit =>
      rw [perform, Enumerator.requestSplit, Enumerator.checkOpen_bind]
      split
      · exact .idle
      · next running => exact .requested running
  | addSplitsBack splits reader =>
      rw [perform, Enumerator.addSplitsBack, Enumerator.checkOpen_bind]
      split
      · exact .idle
      · next running => exact .takenBack running
  | finishSplits ids =>
      rw [perform]
      cases ended : c.enumerator.finishSplits ids with
      | error failure => exact .idle
      | ok e => exact .finished ended
  | close =>
      rw [perform]
      split
      · exact .idle
      · exact .closed

/-- What happens, and where it leads, when operations are performed one after the other. -/
def play (c : Coordinator) : List (Operation × Readers) → List Event × Coordinator
  | [] => ([], c)
  | (operation, readers) :: rest =>
    let turn := c.perform readers operation
    let (events, last) := turn.next.play rest
    (⟨operation, readers, turn.directives, turn.result⟩ :: events, last)

theorem play_runs (c : Coordinator) (turns : List (Operation × Readers)) :
    Runs Step c (c.play turns).1 (c.play turns).2 := by
  induction turns generalizing c with
  | nil => exact .nil c
  | cons turn rest ih => exact .cons (.perform turn.1 turn.2) (ih _)

end Coordinator

def History.play (options : EnumeratorOptions) (state : EnumeratorState)
    (turns : List (Operation × Readers)) : History :=
  ⟨options, state, _, _, Coordinator.play_runs (.ofState options state) turns⟩

end TopicFeed
