import TopicFeed.Proofs.Enumerator.Exhaustion
/-! The life of an enumerator. A start is waited for, so that nobody closes the enumerator
meanwhile; once it is closed, nothing that is called or still under way changes it, and nothing is
told. -/
namespace TopicFeed

namespace Enumerator

variable {e e' middle : Enumerator} {readers : Readers} {directives told : List Directive}
  {purpose : Purpose} {outcome result : Except Failure Unit}

/-- How a discovery comes to its end, before the end is reported. -/
inductive Ends (e : Enumerator) (readers : Readers) :
    Enumerator → List Directive → Except Failure Unit → Prop
  | failed (failure : Failure) : Ends e readers e [] (.error failure)
  | refused : e.lifecycle = .closed → Ends e readers e [] (.ok ())
  | added (splits : List Split) : e.lifecycle ≠ .closed →
      Ends e readers (e.append readers splits).1 (e.append readers splits).2 (.ok ())

theorem Ends.stays (ends : e.Ends readers middle told outcome) : e.Stays middle := by
  cases ends with
  | failed | refused => exact .rfl
  | added splits => exact .of_update (assignPending_stays _ readers) rfl rfl rfl

theorem Ends.eq_of_closed (ends : e.Ends readers middle told outcome)
    (closed : e.lifecycle = .closed) : middle = e ∧ told = [] := by
  cases ends with
  | failed | refused => exact ⟨rfl, rfl⟩
  | added splits running => exact absurd closed running

theorem conclude_lifecycle
    (ended : e.conclude readers purpose directives outcome = .finish e' told result) :
    e'.lifecycle = e.lifecycle := by
  rcases conclude_cases ended with ⟨rfl, _⟩ | ⟨_, rfl, _⟩
  · rfl
  · exact (signal_stays { e with discoveryExhausted := true } readers).lifecycle

theorem conclude_options
    (ended : e.conclude readers purpose directives outcome = .finish e' told result) :
    e'.options = e.options := by
  rcases conclude_cases ended with ⟨rfl, _⟩ | ⟨_, rfl, _⟩
  · rfl
  · exact (signal_stays { e with discoveryExhausted := true } readers).options

theorem conclude_periodic (periodic : purpose ≠ .start)
    (ended : e.conclude readers purpose directives outcome = .finish e' told result) :
    e' = e ∧ told = directives := by
  unfold conclude at ended
  split at ended
  · exact absurd rfl periodic
  · cases ended
    exact ⟨rfl, rfl⟩

theorem Change.lifecycle_eq {operation : Operation}
    (change : e.Change readers operation directives e')
    (starts : ∀ parallelism, operation ≠ .start parallelism) (closes : operation ≠ .close) :
    e'.lifecycle = e.lifecycle := by
  cases change with
  | idle => rfl
  | started => exact absurd rfl (starts _)
  | closed => exact absurd rfl closes
  | readerAdded => exact (assignPending_stays _ readers).lifecycle
  | requested => exact (e.assignPending_stays readers).lifecycle
  | takenBack => exact (foldl_takeBack_stays _ _).lifecycle
  | finished ended => rw [finishSplits_eq ended]
  | abandoned ended => exact conclude_lifecycle ended
  | appended _ ended =>
      exact (conclude_lifecycle ended).trans (assignPending_stays _ readers).lifecycle

end Enumerator

namespace Coordinator

variable {c : Coordinator} {readers : Readers}

/-- What becomes of a discovery in a turn: it goes on, or it ends and is reported. -/
inductive Proceeding (c : Coordinator) (readers : Readers) (index : Nat) (d : Discovery) :
    Turn → Prop
  | goesOn {next : Discovery} : next.purpose = d.purpose →
      Proceeding c readers index d
        ⟨{ c with discoveries := c.discoveries.set index next }, [], none⟩
  | ends {middle e : Enumerator} {told directives : List Directive}
      {outcome result : Except Failure Unit} : c.enumerator.Ends readers middle told outcome →
      middle.conclude readers d.purpose told outcome = .finish e directives result →
      Proceeding c readers index d ⟨⟨e, c.discoveries.eraseIdx index⟩, directives,
        if d.purpose = .start then some result else none⟩

theorem proceed_proceeding (c : Coordinator) (readers : Readers) (index : Nat)
    (broker : (question : AdminQuestion) → question.Reply) (d : Discovery) :
    c.Proceeding readers index d (c.proceed readers index broker d) := by
  have ending {middle : Enumerator} {told : List Directive} {outcome : Except Failure Unit}
      (ends : c.enumerator.Ends readers middle told outcome)
      (advanced : c.enumerator.advance readers d = middle.conclude readers d.purpose told outcome) :
      c.Proceeding readers index d (c.proceed readers index broker d) := by
    obtain ⟨e, directives, result, ended⟩ := middle.conclude_finishes readers d.purpose told outcome
    rw [proceed, advanced, ended]
    exact .ends ends ended
  obtain ⟨purpose, phase⟩ := d
  cases phase with
  | querying query =>
      cases query with
      | ask question next => exact .goesOn rfl
      | done answer =>
          cases answer with
          | error failure => exact ending (.failed failure) rfl
          | ok found =>
              by_cases closed : c.enumerator.lifecycle = .closed
              · exact ending (.refused closed) (if_pos closed)
              · have advanced : c.enumerator.advance readers
                    ⟨purpose, .querying (.done (.ok found))⟩ = .goOn _ := if_neg closed
                rw [proceed, advanced]
                exact .goesOn rfl
  | opening opened unopened =>
      cases unopened with
      | nil =>
          by_cases closed : c.enumerator.lifecycle = .closed
          · exact ending (.refused closed) (if_pos closed)
          · exact ending (.added opened closed) (if_neg closed)
      | cons partition unopened =>
          rw [proceed, Enumerator.advance]
          dsimp only
          by_cases unresolved : (c.enumerator.splitOf partition).stopCursor.needsResolving = true
          · rw [if_pos unresolved]
            exact .goesOn rfl
          · rw [if_neg unresolved]
            exact .goesOn rfl

/-- A start is waited for while the enumerator runs, and where there is no period nobody else
discovers. -/
structure Attended (c : Coordinator) : Prop where
  running : ∀ d ∈ c.discoveries, d.purpose = .start → c.enumerator.lifecycle = .running
  only : c.enumerator.period? = none → ∀ d ∈ c.discoveries, d.purpose = .start

namespace Attended

theorem ofState (options : EnumeratorOptions) (state : EnumeratorState) :
    (Coordinator.ofState options state).Attended :=
  ⟨List.forall_mem_nil _, fun _ => List.forall_mem_nil _⟩

/-- Nobody waits for a discovery that is under way in a closed enumerator. -/
theorem periodic_of_closed (attended : c.Attended) (closed : c.enumerator.lifecycle = .closed)
    {d : Discovery} (member : d ∈ c.discoveries) : d.purpose ≠ .start := by
  intro starts
  have running := attended.running d member starts
  rw [closed] at running
  exact nomatch running

theorem isStarting_of_closed (attended : c.Attended) (closed : c.enumerator.lifecycle = .closed) :
    c.isStarting = false :=
  List.any_eq_false.mpr fun _ member starts =>
    attended.periodic_of_closed closed member (of_decide_eq_true starts)

/-- Every discovery goes on for somebody for whom one went on before. -/
theorem of_purposes (attended : c.Attended) {next : Coordinator}
    (lifecycle : next.enumerator.lifecycle = c.enumerator.lifecycle)
    (options : next.enumerator.options = c.enumerator.options)
    (purposes : ∀ d ∈ next.discoveries, ∃ before ∈ c.discoveries, d.purpose = before.purpose) :
    next.Attended := by
  have period := Enumerator.period_congr options
  constructor
  · intro d member starts
    obtain ⟨before, found, same⟩ := purposes d member
    rw [lifecycle]
    exact attended.running before found (same.symm.trans starts)
  · intro none d member
    obtain ⟨before, found, same⟩ := purposes d member
    rw [same]
    exact attended.only (period ▸ none) before found

theorem of_same (attended : c.Attended) {next : Coordinator}
    (lifecycle : next.enumerator.lifecycle = c.enumerator.lifecycle)
    (options : next.enumerator.options = c.enumerator.options)
    (same : next.discoveries = c.discoveries) : next.Attended :=
  attended.of_purposes lifecycle options fun d member => ⟨d, same ▸ member, rfl⟩

theorem start (attended : c.Attended) (parallelism : UInt32) :
    (c.start parallelism).next.Attended := by
  rcases c.start_next parallelism with same | ⟨_, begun⟩
  · rw [same]
    exact attended
  · rw [begun]
    refine ⟨fun _ _ _ => rfl, fun none d member => ?_⟩
    rcases List.mem_append.mp member with before | new
    · exact attended.only none d before
    · rw [List.mem_singleton.mp new]
      rfl

theorem tick (attended : c.Attended) (parallelism : UInt32) :
    (c.tick parallelism).next.Attended := by
  rcases c.tick_next parallelism with same | ⟨⟨_, some⟩, discovers⟩
  · rw [same]
    exact attended
  · rw [discovers]
    refine ⟨fun d member starts => ?_, fun none => absurd none some⟩
    rcases List.mem_append.mp member with before | new
    · exact attended.running d before starts
    · rw [List.mem_singleton.mp new] at starts
      exact nomatch starts

theorem proceeding (attended : c.Attended) {index : Nat} {d : Discovery} {turn : Turn}
    (member : d ∈ c.discoveries) (proceeds : c.Proceeding readers index d turn) :
    turn.next.Attended := by
  cases proceeds with
  | goesOn same =>
      refine attended.of_purposes rfl rfl fun other among => ?_
      rcases List.mem_or_eq_of_mem_set among with before | rfl
      · exact ⟨other, before, rfl⟩
      · exact ⟨d, member, same⟩
  | ends ends ended =>
      refine attended.of_purposes ?_ ?_ fun other among =>
        ⟨other, List.mem_of_mem_eraseIdx among, rfl⟩
      · exact (Enumerator.conclude_lifecycle ended).trans ends.stays.lifecycle
      · exact (Enumerator.conclude_options ended).trans ends.stays.options

theorem perform (attended : c.Attended) (readers : Readers) (operation : Operation) :
    (c.perform readers operation).next.Attended := by
  have change := c.perform_change readers operation
  cases operation with
  | start parallelism => exact attended.start parallelism
  | tick parallelism => exact attended.tick parallelism
  | discovery index broker =>
      rw [perform_discovery]
      cases found : c.discoveries[index]? with
      | none => exact attended
      | some d =>
          exact attended.proceeding (List.mem_of_getElem? found)
            (c.proceed_proceeding readers index broker d)
  | addReader | requestSplit | addSplitsBack | finishSplits =>
      exact attended.of_same (change.lifecycle_eq nofun nofun) change.course.options
        (c.perform_discoveries readers rfl nofun)
  | close =>
      rw [Coordinator.perform]
      split
      · exact attended
      · next idle =>
        refine ⟨fun d member starts => absurd ?_ idle, attended.only⟩
        exact List.any_eq_true.mpr ⟨d, member, decide_eq_true starts⟩

end Attended

theorem attended_of_runs {options : EnumeratorOptions} {state : EnumeratorState}
    {events : List Event} (runs : Runs Step (.ofState options state) events c) : c.Attended := by
  refine runs.traced (P := fun _ c => c.Attended) (.ofState options state) ?_
  rintro _ _ _ c _ _ attended step
  cases step with
  | perform operation readers => exact attended.perform readers operation

end Coordinator

/-- Calls that only an open enumerator can serve. -/
def Operation.NeedsOpen : Operation → Prop
  | .start _ | .addReader _ | .requestSplit | .addSplitsBack _ _ | .finishSplits _ => True
  | .tick _ | .discovery _ _ | .close => False

namespace Coordinator

variable {c last : Coordinator} {readers : Readers}

theorem Proceeding.of_closed {index : Nat} {d : Discovery} {turn : Turn}
    (proceeds : c.Proceeding readers index d turn) (periodic : d.purpose ≠ .start)
    (closed : c.enumerator.lifecycle = .closed) :
    turn.next.enumerator = c.enumerator ∧ turn.directives = [] := by
  cases proceeds with
  | goesOn => exact ⟨rfl, rfl⟩
  | ends ends ended =>
      obtain ⟨rfl, rfl⟩ := ends.eq_of_closed closed
      exact Enumerator.conclude_periodic periodic ended

/-- A turn leaves a closed enumerator as it is, says nothing, and refuses what needs an open one. -/
theorem perform_of_closed (attended : c.Attended) (closed : c.enumerator.lifecycle = .closed)
    (readers : Readers) (operation : Operation) :
    (c.perform readers operation).next.enumerator = c.enumerator ∧
      (c.perform readers operation).directives = [] ∧
      (operation.NeedsOpen →
        (c.perform readers operation).result = some (.error .enumeratorClosed)) := by
  cases operation with
  | start parallelism =>
      rw [perform, start, attended.isStarting_of_closed closed, Enumerator.start, closed]
      exact ⟨rfl, rfl, fun _ => rfl⟩
  | tick parallelism =>
      rw [perform, tick]
      split <;> exact ⟨rfl, rfl, False.elim⟩
  | discovery index broker =>
      rw [perform_discovery]
      cases found : c.discoveries[index]? with
      | none => exact ⟨rfl, rfl, False.elim⟩
      | some d =>
          -- only a start does more at its end, and there is none
          have periodic := attended.periodic_of_closed closed (List.mem_of_getElem? found)
          obtain ⟨same, silent⟩ :=
            (c.proceed_proceeding readers index broker d).of_closed periodic closed
          exact ⟨same, silent, False.elim⟩
  | addReader reader =>
      rw [perform, Enumerator.addReader, Enumerator.checkOpen_bind, if_pos closed]
      exact ⟨rfl, rfl, fun _ => rfl⟩
  | requestSplit =>
      rw [perform, Enumerator.requestSplit, Enumerator.checkOpen_bind, if_pos closed]
      exact ⟨rfl, rfl, fun _ => rfl⟩
  | addSplitsBack splits reader =>
      rw [perform, Enumerator.addSplitsBack, Enumerator.checkOpen_bind, if_pos closed]
      exact ⟨rfl, rfl, fun _ => rfl⟩
  | finishSplits ids =>
      rw [perform, Enumerator.finishSplits, Enumerator.checkOpen_bind, if_pos closed]
      exact ⟨rfl, rfl, fun _ => rfl⟩
  | close =>
      have same : c.enumerator.close = c.enumerator := by
        rw [Enumerator.close, ← closed]
      rw [perform, attended.isStarting_of_closed closed]
      exact ⟨same, rfl, False.elim⟩

end Coordinator

namespace History

/-- Once an enumerator is closed, it stays as it is, nothing is told to anybody, and every call that
needs an open one fails, whatever discoveries were under way. -/
theorem closed_absorbs (h : History) (closed : h.current.enumerator.lifecycle = .closed)
    {events : List Event} {last : Coordinator}
    (later : Runs Coordinator.Step h.current events last) :
    last.enumerator = h.current.enumerator ∧ ∀ event ∈ events, event.directives = [] ∧
      (event.operation.NeedsOpen → event.result = some (.error .enumeratorClosed)) := by
  have kept := later.traced (P := fun before c => c.Attended ∧
    c.enumerator = h.current.enumerator ∧ ∀ event ∈ before, event.directives = [] ∧
      (event.operation.NeedsOpen → event.result = some (.error .enumeratorClosed))) ?_ ?_
  · exact kept.2
  · exact ⟨Coordinator.attended_of_runs h.runs, rfl, List.forall_mem_nil _⟩
  · rintro before event after c c' _ ⟨attended, same, silent⟩ step
    cases step with
    | perform operation readers =>
        obtain ⟨unmoved, now⟩ :=
          Coordinator.perform_of_closed attended (same ▸ closed) readers operation
        exact ⟨attended.perform readers operation, unmoved.trans same,
          List.forall_mem_append.mpr ⟨silent, List.forall_mem_singleton.mpr now⟩⟩

end History

namespace Sample

/-- A source without an end is closed while a later discovery is still asking for partitions. -/
def overtaken : History := .play unbounded .empty <|
  (.start 1, .ofList [0]) :: List.replicate 4 (discovering 1 [0]) ++
    [(.tick 1, .ofList [0]), discovering 2 [0], (.close, .ofList [0])]

/-- The discovery goes on, a reader fails and registers again, and somebody tries to start. -/
def afterwards : List (Operation × Readers) :=
  [discovering 2 [0], (.addSplitsBack [dealt 0] 0, ∅), (.addReader 0, .ofList [0]),
    (.start 1, .ofList [0])]

end Sample

theorem History.closed_absorbs_overtaken :
    Sample.overtaken.current.enumerator.lifecycle = .closed ∧
      Sample.overtaken.current.discoveries.length = 1 ∧
      (Sample.overtaken.current.play Sample.afterwards).2.discoveries = [] ∧
      (Sample.overtaken.current.play Sample.afterwards).2.enumerator =
        Sample.overtaken.current.enumerator ∧
      ∀ event ∈ (Sample.overtaken.current.play Sample.afterwards).1, event.directives = [] ∧
        (event.operation.NeedsOpen → event.result = some (.error .enumeratorClosed)) := by
  have closed : Sample.overtaken.current.enumerator.lifecycle = .closed := by
    decide +kernel
  exact ⟨closed, by decide +kernel, by decide +kernel,
    Sample.overtaken.closed_absorbs closed (Coordinator.play_runs _ Sample.afterwards)⟩

end TopicFeed
