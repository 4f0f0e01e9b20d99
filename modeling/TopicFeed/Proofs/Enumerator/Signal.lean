import TopicFeed.Proofs.Enumerator.Exhaustion
/-! What it means to a reader that no more splits come. Nothing is handed out to anybody after that,
except splits that are returned. -/
namespace TopicFeed

namespace Directive

def signals : Directive → List UInt32
  | .assign _ => []
  | .noMoreSplits reader => [reader]

def splitsTo (reader : UInt32) : Directive → List Split
  | .assign assignment => assignment.splitsOf reader
  | .noMoreSplits _ => []

end Directive

namespace Event

/-- The readers that are told that no more splits come. -/
def signals (event : Event) : List UInt32 := event.directives.flatMap Directive.signals

def handedTo (reader : UInt32) (event : Event) : List Split :=
  event.directives.flatMap (Directive.splitsTo reader)

theorem handedTo_subset (reader : UInt32) (event : Event) :
    event.handedTo reader ⊆ event.handed := by
  intro split member
  obtain ⟨directive, told, gets⟩ := List.mem_flatMap.mp member
  refine List.mem_flatMap.mpr ⟨directive, told, ?_⟩
  cases directive with
  | noMoreSplits _ => exact gets
  | assign assignment =>
      rw [Directive.splitsTo, Assignment.splitsOf] at gets
      cases found : assignment.get? reader with
      | none =>
          rw [found] at gets
          exact nomatch gets
      | some splits =>
          rw [found] at gets
          exact List.mem_flatten.mpr ⟨splits, assignment.mem_values.mpr ⟨reader, found⟩, gets⟩

end Event

namespace Enumerator

/-- Nothing is left to discover, and nothing waits. -/
structure Spent (e : Enumerator) : Prop where
  exhausted : e.discoveryExhausted = true
  empty : e.state.pending = []

/-- Splits are handed out before readers are told that no more come, and that is so. -/
def Tells (e : Enumerator) (directives : List Directive) : Prop :=
  ∃ (assigned : List Assignment) (told : List UInt32),
    directives = assigned.map .assign ++ told.map .noMoreSplits ∧ (told ≠ [] → e.Spent)

namespace Tells

variable {e e' : Enumerator} {directives : List Directive}

theorem nil : e.Tells [] := ⟨[], [], rfl, absurd rfl⟩

theorem assign (assignment : Assignment) : e.Tells [.assign assignment] :=
  ⟨[assignment], [], rfl, absurd rfl⟩

theorem spent (tells : e.Tells directives) {reader : UInt32}
    (told : reader ∈ directives.flatMap Directive.signals) : e.Spent := by
  obtain ⟨assigned, others, rfl, spends⟩ := tells
  refine spends ?_
  rintro rfl
  simp [Directive.signals] at told

theorem mono (tells : e.Tells directives) (spent : e.Spent → e'.Spent) : e'.Tells directives := by
  obtain ⟨assigned, told, whole, spends⟩ := tells
  exact ⟨assigned, told, whole, fun some => spent (spends some)⟩

theorem signal (tells : e.Tells directives) (readers : Readers) :
    (e.signal readers).1.Tells (directives ++ (e.signal readers).2) := by
  rw [Enumerator.signal]
  split
  · rw [List.append_nil]
    exact tells
  · next quiet =>
    obtain ⟨assigned, told, rfl, _⟩ := tells
    rw [Bool.or_eq_true, not_or, Bool.not_eq_true, Bool.not_eq_true, Bool.not_eq_false',
      Bool.not_eq_false', List.isEmpty_iff] at quiet
    refine ⟨assigned, told ++ readers.toList.filter fun r => !e.signalled.contains r, ?_,
      fun _ => ⟨quiet.1, quiet.2⟩⟩
    rw [List.map_append, List.append_assoc]

theorem assignPending (e : Enumerator) (readers : Readers) :
    (e.assignPending readers).1.Tells (e.assignPending readers).2 := by
  rw [Enumerator.assignPending]
  split
  · exact Tells.nil.signal readers
  · exact (Tells.assign _).signal readers

theorem conclude {readers : Readers} {purpose : Purpose} {told : List Directive}
    {outcome result : Except Failure Unit} (tells : e.Tells directives)
    (ended : e.conclude readers purpose directives outcome = .finish e' told result) :
    e'.Tells told := by
  rcases conclude_cases ended with ⟨rfl, rfl⟩ | ⟨_, rfl, rfl⟩
  · exact tells
  · have finished : Tells { e with discoveryExhausted := true } directives :=
      tells.mono fun spent => ⟨rfl, spent.empty⟩
    exact finished.signal readers

end Tells

theorem Change.tells {e e' : Enumerator} {readers : Readers} {operation : Operation}
    {directives : List Directive} (change : e.Change readers operation directives e') :
    e'.Tells directives := by
  cases change with
  | idle | started | closed | takenBack | finished => exact .nil
  | readerAdded => exact .assignPending _ readers
  | requested => exact .assignPending e readers
  | abandoned ended => exact .conclude .nil ended
  | appended _ ended => exact .conclude (.assignPending _ readers) ended

end Enumerator

namespace Coordinator

variable {c : Coordinator}

/-- The enumerator is spent, but for splits that are returned. -/
structure Awaits (returned : List Split) (c : Coordinator) : Prop where
  coherent : c.Coherent
  exhausted : c.enumerator.discoveryExhausted = true
  pending : c.enumerator.state.pending ⊆ returned

theorem Awaits.of_spent (coherent : c.Coherent) (spent : c.enumerator.Spent) : c.Awaits [] :=
  ⟨coherent, spent.exhausted, by rw [spent.empty]; exact List.nil_subset _⟩

/-- Only what was returned is handed out, and only what is returned comes to wait. -/
theorem Awaits.perform {returned : List Split} (awaits : Awaits returned c) (readers : Readers)
    (operation : Operation) :
    handedOut (c.perform readers operation).directives ⊆ returned ∧
      Awaits (returned ++ operation.returned) (c.perform readers operation).next := by
  have change := c.perform_change readers operation
  obtain ⟨fresh, flow⟩ := change.flow
  obtain rfl := flow.grown.eq_nil (awaits.coherent.appended_eq awaits.exhausted readers operation)
  refine ⟨fun split out => ?_, awaits.coherent.perform readers operation,
    change.course.lasts awaits.exhausted, fun split waiting => ?_⟩
  · have waited := flow.leaves split out
    rw [List.append_nil] at waited
    exact awaits.pending waited
  · rcases flow.waits split waiting with waited | ⟨back, _⟩
    · rw [List.append_nil] at waited
      exact List.mem_append_left _ (awaits.pending waited)
    · exact List.mem_append_right _ back

theorem Awaits.of_runs {last : Coordinator} {events : List Event} (runs : Runs Step c events last)
    (awaits : Awaits [] c) : Awaits (events.flatMap (·.operation.returned)) last := by
  refine runs.traced
    (P := fun before c => Awaits (before.flatMap (·.operation.returned)) c) awaits ?_
  rintro before _ _ c _ _ awaits step
  cases step with
  | perform operation readers =>
      rw [List.flatMap_append, List.flatMap_singleton]
      exact (awaits.perform readers operation).2

end Coordinator

/-- A reader registers, or is said to have failed, so that it may get splits again. -/
def Operation.Renews (reader : UInt32) : Operation → Prop
  | .addReader other => other = reader
  | .addSplitsBack _ other => other = reader
  | _ => False

namespace History

/-- A reader that was told that no more splits come gets none, unless it was renewed. -/
def KeepsWord (h : History) : Prop :=
  ∀ before told between later after, h.events = before ++ told :: (between ++ later :: after) →
    ∀ reader ∈ told.signals, later.handedTo reader ≠ [] →
      ∃ event ∈ between ++ [later], event.operation.Renews reader

/-- Once any reader was told that no more splits come, whoever gets a split gets one that was
returned after that. In the same turn, splits are handed out before readers are told. -/
theorem handed_after_signal (h : History) {before between after : List Event} {told later : Event}
    (whole : h.events = before ++ told :: (between ++ later :: after)) {reader : UInt32}
    (signalled : reader ∈ told.signals) :
    (∃ (assigned : List Assignment) (others : List UInt32),
      told.directives = assigned.map .assign ++ others.map .noMoreSplits) ∧
      ∀ other, ∀ split ∈ later.handedTo other,
        ∃ event ∈ between, split ∈ event.operation.returned := by
  have runs := h.runs
  rw [whole] at runs
  obtain ⟨c, first, rest⟩ := Runs.append_iff.mp runs
  cases rest with
  | cons step rest =>
      obtain ⟨middle, quiet, last⟩ := Runs.append_iff.mp rest
      have coherent := Coordinator.coherent_of_runs first
      cases step with
      | perform operation readers =>
          have tells := (c.perform_change readers operation).tells
          have awaits := Coordinator.Awaits.of_runs quiet
            (.of_spent (coherent.perform readers operation) (tells.spent signalled))
          constructor
          · obtain ⟨assigned, others, shape, _⟩ := tells
            exact ⟨assigned, others, shape⟩
          · intro other split gets
            have out := Event.handedTo_subset other later gets
            cases last with
            | cons step _ =>
                cases step with
                | perform operation readers =>
                    exact List.mem_flatMap.mp ((awaits.perform readers operation).1 out)

end History

namespace Sample

/-- Two readers have a split each and are told that no more come. One of them fails, and its split
is dealt to the other. -/
def redealt : History := .play history.options .empty <|
  (.start 1, .ofList [0, 1]) :: List.replicate 5 (.discovery 0 broker, .ofList [0, 1]) ++
    [(.addSplitsBack [dealt 1] 1, .ofList [0, 1]), (.requestSplit, .ofList [0, 1])]

end Sample

namespace History

theorem handed_after_signal_redealt : ∃ before told between later,
    Sample.redealt.events = before ++ told :: (between ++ [later]) ∧ 0 ∈ told.signals ∧
      Sample.dealt 1 ∈ later.handedTo 0 ∧
      ∃ event ∈ between, Sample.dealt 1 ∈ event.operation.returned := by
  have whole : Sample.redealt.events = Sample.redealt.events.take 5 ++ _ :: ([_] ++ [_]) := rfl
  refine ⟨_, _, _, _, whole, ?told, ?gets,
    (Sample.redealt.handed_after_signal whole ?told).2 0 _ ?gets⟩
  case told => decide +kernel
  case gets => decide +kernel

theorem not_keepsWord_redealt : ¬Sample.redealt.KeepsWord := by
  intro keeps
  have whole : Sample.redealt.events = Sample.redealt.events.take 5 ++ _ :: ([_] ++ [_]) := rfl
  obtain ⟨event, among, renews⟩ := keeps _ _ _ _ _ whole 0 (by decide +kernel) (by decide +kernel)
  rcases List.mem_cons.mp among with rfl | among
  · have same : (1 : UInt32) = 0 := renews
    exact absurd same (by decide)
  · rw [List.mem_singleton.mp among] at renews
    exact renews

end History
end TopicFeed
