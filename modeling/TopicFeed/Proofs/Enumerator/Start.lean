import TopicFeed.Proofs.Enumerator.Completion
/-! What a start is worth. An enumerator without a period discovers once, for the first start. A
start that does not fail has discovered, unless one failed before it: after that every start is
answered, but nothing is discovered any more. -/
namespace TopicFeed

namespace Event

/-- The answer to a start, given at once or when its discovery is over. -/
def answer? (event : Event) : Option (Except Failure Unit) :=
  match event.operation with
  | .start _ | .discovery _ _ => event.result
  | _ => none

def FailsStart (event : Event) : Prop := ∃ failure, event.answer? = some (.error failure)

end Event

namespace Coordinator

variable {c : Coordinator} {readers : Readers} {operation : Operation} {before : List Event}

/-- How a start is taken. -/
inductive Starting (c : Coordinator) (parallelism : UInt32) : Turn → Prop
  | waits : c.isStarting = true → Starting c parallelism c.idle
  | begins : c.enumerator.lifecycle = .init →
      Starting c parallelism ⟨⟨{ c.enumerator with lifecycle := .running },
        c.discoveries ++ [c.enumerator.discover .start parallelism]⟩, [], none⟩
  | again : c.isStarting = false → c.enumerator.lifecycle = .running →
      Starting c parallelism ⟨c, [], some (.ok ())⟩
  | refused : c.enumerator.lifecycle = .closed →
      Starting c parallelism ⟨c, [], some (.error .enumeratorClosed)⟩

theorem start_starting (c : Coordinator) (parallelism : UInt32) :
    c.Starting parallelism (c.start parallelism) := by
  rw [start]
  split
  · next waiting => exact .waits waiting
  · next idle =>
    rw [Enumerator.start]
    cases life : c.enumerator.lifecycle with
    | init => exact .begins life
    | running => exact .again (Bool.eq_false_iff.mpr idle) life
    | closed => exact .refused life

/-- Where there is no period, nobody discovers unless a start is waiting. -/
theorem Attended.none_under_way (attended : c.Attended) (single : c.enumerator.period? = none)
    (idle : c.isStarting = false) : c.discoveries = [] := by
  refine List.eq_nil_iff_forall_not_mem.mpr fun d member => ?_
  exact List.any_eq_false.mp idle d member (decide_eq_true (attended.only single d member))

/-- A discovery goes on, or is over; then a start is answered if it waits for it. -/
theorem Proceeding.answers {index : Nat} {d : Discovery} {turn : Turn}
    (proceeds : c.Proceeding readers index d turn) (found : c.discoveries[index]? = some d) :
    turn.next.discoveries ≠ [] ∧ turn.result = none ∨
      turn.next.discoveries = c.discoveries.eraseIdx index ∧
        (turn.result ≠ none ↔ d.purpose = .start) := by
  cases proceeds with
  | goesOn =>
      refine .inl ⟨fun none => ?_, rfl⟩
      obtain ⟨within, _⟩ := List.getElem?_eq_some_iff.mp found
      have length := congrArg List.length none
      rw [List.length_set, List.length_nil] at length
      omega
  | ends => exact .inr ⟨rfl, by simp⟩

/-- The only discovery is over, or will never begin. -/
structure Spent (c : Coordinator) : Prop where
  begun : c.enumerator.lifecycle ≠ .init
  idle : c.discoveries = []

namespace Spent

theorem perform_over (spent : c.Spent) (single : c.enumerator.period? = none) (readers : Readers)
    (operation : Operation) : (c.perform readers operation).next.discoveries = [] := by
  cases operation with
  | start parallelism =>
      rcases c.start_next parallelism with same | ⟨early, _⟩
      · exact (congrArg discoveries same).trans spent.idle
      · exact absurd early spent.begun
  | tick parallelism =>
      rcases c.tick_next parallelism with same | ⟨⟨_, some⟩, _⟩
      · exact (congrArg discoveries same).trans spent.idle
      · exact absurd single some
  | discovery index broker =>
      rw [perform_discovery, spent.idle]
      exact spent.idle
  | addReader | requestSplit | addSplitsBack | finishSplits | close =>
      exact Eq.trans (c.perform_discoveries readers rfl nofun) spent.idle

/-- Whatever happens then, nothing is discovered. -/
theorem perform (spent : c.Spent) (single : c.enumerator.period? = none) (readers : Readers)
    (operation : Operation) : (c.perform readers operation).next.Spent ∧
      (c.perform readers operation).next.enumerator.discoveryExhausted =
        c.enumerator.discoveryExhausted ∧
      (c.perform readers operation).next.enumerator.state.appended =
        c.enumerator.state.appended := by
  by_cases discovers : ∃ index broker, operation = .discovery index broker
  · obtain ⟨index, broker, rfl⟩ := discovers
    have idle : c.perform readers (.discovery index broker) = c.idle := by
      rw [perform_discovery, spent.idle]
      rfl
    rw [idle]
    exact ⟨spent, rfl, rfl⟩
  · have change := c.perform_change readers operation
    refine ⟨⟨fun early => spent.begun (change.course.begun early),
      spent.perform_over single readers operation⟩, Bool.eq_iff_iff.mpr ⟨fun after => ?_,
        change.course.lasts⟩, change.appended_eq fun index broker is => ?_⟩
    · exact (change.course.ends after).resolve_right fun none => discovers none.2
    · exact discovers ⟨index, broker, is⟩

/-- A start is answered all the same. -/
theorem start (spent : c.Spent) (parallelism : UInt32) : (c.start parallelism).directives = [] ∧
    ((c.start parallelism).result = some (.ok ()) ∨
      (c.start parallelism).result = some (.error .enumeratorClosed)) := by
  have starting := c.start_starting parallelism
  generalize c.start parallelism = turn at starting ⊢
  cases starting with
  | waits waiting =>
      rw [isStarting, spent.idle] at waiting
      exact nomatch waiting
  | begins early => exact absurd early spent.begun
  | again => exact ⟨rfl, .inl rfl⟩
  | refused => exact ⟨rfl, .inr rfl⟩

/-- In a whole run nothing is discovered, though every start is answered. -/
theorem quiet (spent : c.Spent) (single : c.enumerator.period? = none) {events : List Event}
    {last : Coordinator} (run : Runs Step c events last) : last.discoveries = [] ∧
      last.enumerator.discoveryExhausted = c.enumerator.discoveryExhausted ∧
      last.enumerator.state.appended = c.enumerator.state.appended ∧
      ∀ event ∈ events, ∀ parallelism, event.operation = .start parallelism →
        event.directives = [] ∧ (event.result = some (.ok ()) ∨
          event.result = some (.error .enumeratorClosed)) := by
  induction run with
  | nil c => exact ⟨spent.idle, rfl, rfl, List.forall_mem_nil _⟩
  | @cons c _ _ _ _ step _ ih =>
      cases step with
      | perform operation readers =>
          have options := (c.perform_change readers operation).course.options
          obtain ⟨still, exhausted, appended⟩ := spent.perform single readers operation
          obtain ⟨idle, exhausted', appended', starts⟩ :=
            ih still ((Enumerator.period_congr options).trans single)
          refine ⟨idle, exhausted'.trans exhausted, appended'.trans appended,
            List.forall_mem_cons.mpr ⟨?_, starts⟩⟩
          rintro parallelism rfl
          exact spent.start parallelism

end Spent

/-- What comes with the answer to a start. -/
inductive Answered (c : Coordinator) : Except Failure Unit → Coordinator → Prop
  | again : c.isStarting = false → c.enumerator.lifecycle = .running → Answered c (.ok ()) c
  | refused : c.enumerator.lifecycle = .closed → Answered c (.error .enumeratorClosed) c
  | ended {index : Nat} {d : Discovery} {outcome : Except Failure Unit} {next : Coordinator} :
      c.discoveries[index]? = some d → d.purpose = .start →
      next.discoveries = c.discoveries.eraseIdx index →
      next.enumerator.lifecycle = c.enumerator.lifecycle →
      (next.enumerator.discoveryExhausted = true ↔ c.enumerator.discoveryExhausted = true ∨
        c.enumerator.period? = none ∧ outcome = .ok ()) →
      Answered c outcome next

theorem answered_of_answer {outcome : Except Failure Unit}
    (answer : (c.event readers operation).answer? = some outcome) :
    c.Answered outcome (c.perform readers operation).next := by
  cases operation with
  | start parallelism =>
      have starting := c.start_starting parallelism
      change (c.start parallelism).result = some outcome at answer
      change c.Answered outcome (c.start parallelism).next
      generalize c.start parallelism = turn at starting answer ⊢
      cases starting with
      | waits | begins => exact nomatch answer
      | again idle running =>
          cases answer
          exact .again idle running
      | refused closed =>
          cases answer
          exact .refused closed
  | discovery index broker =>
      have change := c.perform_change readers (.discovery index broker)
      have lifecycle := change.lifecycle_eq nofun nofun
      change (c.perform readers (.discovery index broker)).result = some outcome at answer
      rw [perform_discovery] at answer lifecycle ⊢
      cases found : c.discoveries[index]? with
      | none =>
          rw [found] at answer
          exact nomatch answer
      | some d =>
          rw [found] at answer lifecycle
          have proceeds := c.proceed_proceeding readers index broker d
          have exhausted := proceeds.exhausted
          rw [show (c.proceed readers index broker d).result = some outcome from answer,
            Option.some_inj] at exhausted
          rcases proceeds.answers found with ⟨_, none⟩ | ⟨erased, waited⟩
          · exact nomatch none.symm.trans answer
          · have starts := waited.mp fun none => nomatch none.symm.trans answer
            exact .ended found starts erased lifecycle exhausted
  | tick | addReader | requestSplit | addSplitsBack | finishSplits | close => exact nomatch answer

section Answer

variable {next : Coordinator} {outcome : Except Failure Unit}

/-- Where there is no period, nothing is left under way when a start is answered. -/
theorem Answered.spent (answered : c.Answered outcome next) (attended : c.Attended)
    (coherent : c.Coherent) (single : c.enumerator.period? = none) : next.Spent := by
  cases answered with
  | again idle running =>
      exact ⟨fun early => (nomatch running.symm.trans early), attended.none_under_way single idle⟩
  | refused closed =>
      exact ⟨fun early => (nomatch closed.symm.trans early),
        attended.none_under_way single (attended.isStarting_of_closed closed)⟩
  | ended found starts erased lifecycle _ =>
      obtain ⟨within, _⟩ := List.getElem?_eq_some_iff.mp found
      have running := attended.running _ (List.mem_of_getElem? found) starts
      have one := coherent.single single
      have fewer := List.length_eraseIdx_add_one within
      refine ⟨fun early => ?_, erased.trans (List.length_eq_zero_iff.mp (by omega))⟩
      exact nomatch (lifecycle.trans running).symm.trans early

/-- An enumerator in which a start has succeeded runs. -/
theorem Answered.running (answered : c.Answered (.ok ()) next) (attended : c.Attended) :
    next.enumerator.lifecycle = .running := by
  cases answered with
  | again _ running => exact running
  | ended found starts _ lifecycle _ =>
      exact lifecycle.trans (attended.running _ (List.mem_of_getElem? found) starts)

/-- After a start has failed something is left to discover, unless it came after the end. -/
theorem Answered.unexhausted {failure : Failure} (answered : c.Answered (.error failure) next)
    (coherent : c.Coherent) : next.enumerator.discoveryExhausted = false ∨
      next.enumerator.lifecycle = .closed := by
  cases answered with
  | refused closed => exact .inr closed
  | ended found _ _ _ exhausted =>
      refine .inl (Bool.eq_false_iff.mpr fun after => ?_)
      rcases exhausted.mp after with before | ⟨_, succeeded⟩
      · rw [(coherent.finished before).2] at found
        exact nomatch found
      · exact nomatch succeeded

end Answer

/-- Where there is no period, a discovery that is over has left nothing to discover, or a start has
failed. -/
theorem discovery_over (attended : c.Attended) (single : c.enumerator.period? = none) {index : Nat}
    (broker : (question : AdminQuestion) → question.Reply) {d : Discovery}
    (found : c.discoveries[index]? = some d)
    (idle : (c.perform readers (.discovery index broker)).next.discoveries = []) :
    (c.perform readers (.discovery index broker)).next.enumerator.discoveryExhausted = true ∨
      (c.event readers (.discovery index broker)).FailsStart := by
  have starts := attended.only single d (List.mem_of_getElem? found)
  have proceeds := c.proceed_proceeding readers index broker d
  have turn : c.perform readers (.discovery index broker) = c.proceed readers index broker d := by
    rw [perform_discovery, found]
    rfl
  have answer : (c.event readers (.discovery index broker)).answer? =
      (c.proceed readers index broker d).result := congrArg Turn.result turn
  rw [turn] at idle ⊢
  rcases proceeds.answers found with ⟨busy, _⟩ | ⟨_, waited⟩
  · exact absurd idle busy
  · obtain ⟨outcome, result⟩ := Option.ne_none_iff_exists'.mp (waited.mpr starts)
    cases outcome with
    | ok => exact .inl (proceeds.exhausted.mpr (.inr ⟨single, result⟩))
    | error failure => exact .inr ⟨failure, answer.trans result⟩

/-- An enumerator that runs with nothing under way was so before, or a discovery has just ended. -/
theorem idle_of_perform (single : c.enumerator.period? = none)
    (running : (c.perform readers operation).next.enumerator.lifecycle = .running)
    (idle : (c.perform readers operation).next.discoveries = []) :
    c.enumerator.lifecycle = .running ∧ c.discoveries = [] ∨
      ∃ index broker d, operation = .discovery index broker ∧ c.discoveries[index]? = some d := by
  have lives (starts : ∀ parallelism, operation ≠ .start parallelism)
      (closes : operation ≠ .close) : c.enumerator.lifecycle = .running :=
    ((c.perform_change readers operation).lifecycle_eq starts closes).symm.trans running
  have empty (quiet : operation.parallelism? = none)
      (other : ∀ index broker, operation ≠ .discovery index broker) : c.discoveries = [] :=
    (c.perform_discoveries readers quiet other).symm.trans idle
  cases operation with
  | start parallelism =>
      change (c.start parallelism).next.enumerator.lifecycle = .running at running
      change (c.start parallelism).next.discoveries = [] at idle
      rcases c.start_next parallelism with same | ⟨_, begun⟩
      · rw [same] at running idle
        exact .inl ⟨running, idle⟩
      · rw [begun] at idle
        exact absurd idle (List.append_ne_nil_of_right_ne_nil _ (List.cons_ne_nil _ _))
  | tick parallelism =>
      change (c.tick parallelism).next.discoveries = [] at idle
      rcases c.tick_next parallelism with same | ⟨⟨_, some⟩, _⟩
      · rw [same] at idle
        exact .inl ⟨lives (by simp) (by simp), idle⟩
      · exact absurd single some
  | discovery index broker =>
      cases found : c.discoveries[index]? with
      | none =>
          rw [perform_discovery, found] at idle
          exact .inl ⟨lives (by simp) (by simp), idle⟩
      | some d => exact .inr ⟨index, broker, d, rfl, found⟩
  | addReader | requestSplit | addSplitsBack | finishSplits =>
      exact .inl ⟨lives (by simp) (by simp), empty rfl (by simp)⟩
  | close =>
      rw [perform] at running
      split at running
      · exact .inl ⟨running, empty rfl (by simp)⟩
      · cases running

/-- Once the only discovery is over, it has left nothing to discover or a start has failed; and a
failure is never made good. -/
structure Settled (before : List Event) (c : Coordinator) : Prop where
  answered : c.enumerator.lifecycle = .running → c.discoveries = [] →
    c.enumerator.discoveryExhausted = true ∨ ∃ event ∈ before, event.FailsStart
  failed : ∀ event ∈ before, event.FailsStart → c.Spent ∧
    (c.enumerator.discoveryExhausted = false ∨ c.enumerator.lifecycle = .closed)

theorem Settled.answered_perform (settled : c.Settled before) (attended : c.Attended)
    (single : c.enumerator.period? = none)
    (running : (c.perform readers operation).next.enumerator.lifecycle = .running)
    (idle : (c.perform readers operation).next.discoveries = []) :
    (c.perform readers operation).next.enumerator.discoveryExhausted = true ∨
      ∃ event ∈ before ++ [c.event readers operation], event.FailsStart := by
  rcases idle_of_perform single running idle with ⟨ran, none⟩ | ⟨index, broker, d, rfl, found⟩
  · rcases settled.answered ran none with exhausted | ⟨event, early, fails⟩
    · exact .inl ((c.perform_change readers operation).course.lasts exhausted)
    · exact .inr ⟨event, List.mem_append_left _ early, fails⟩
  · refine (discovery_over attended single broker found idle).imp_right fun fails => ?_
    exact ⟨_, List.mem_append_right _ List.mem_cons_self, fails⟩

theorem Settled.perform (settled : c.Settled before) (attended : c.Attended)
    (coherent : c.Coherent) (single : c.enumerator.period? = none) :
    (c.perform readers operation).next.Settled (before ++ [c.event readers operation]) := by
  refine ⟨settled.answered_perform attended single, fun event member fails => ?_⟩
  rcases List.mem_append.mp member with early | last
  · obtain ⟨spent, lost⟩ := settled.failed event early fails
    obtain ⟨still, exhausted, _⟩ := spent.perform single readers operation
    refine ⟨still, lost.imp (fun unexhausted => exhausted.trans unexhausted) fun closed => ?_⟩
    rw [(perform_of_closed attended closed readers operation).1]
    exact closed
  · obtain ⟨failure, answer⟩ := fails
    rw [List.mem_singleton.mp last] at answer
    have answered := answered_of_answer answer
    exact ⟨answered.spent attended coherent single, answered.unexhausted coherent⟩

/-- A start has the partitions that it asked for. -/
def Finds (c : Coordinator) : Prop :=
  ∃ d ∈ c.discoveries, d.purpose = .start ∧ ∃ found, d.phase = .querying (.done (.ok found))

/-- A start is opening the splits of partitions, or is over. -/
def Surveyed (c : Coordinator) : Prop :=
  c.enumerator.discoveryExhausted = true ∨
    ∃ d ∈ c.discoveries, d.purpose = .start ∧ ∃ opened unopened, d.phase = .opening opened unopened

namespace Surveyed

variable {next : Coordinator}

/-- Another discovery that is still asking makes no difference. -/
theorem of_next (surveyed : next.Surveyed)
    (exhausted : next.enumerator.discoveryExhausted = true →
      c.enumerator.discoveryExhausted = true)
    (among : ∀ d ∈ next.discoveries, d ∈ c.discoveries ∨ ∃ query, d.phase = .querying query) :
    c.Surveyed := by
  rcases surveyed with done | ⟨d, member, starts, opened, unopened, opening⟩
  · exact .inl (exhausted done)
  · rcases among d member with before | ⟨query, asking⟩
    · exact .inr ⟨d, before, starts, opened, unopened, opening⟩
    · exact nomatch opening.symm.trans asking

theorem of_start {parallelism : UInt32} (surveyed : (c.start parallelism).next.Surveyed) :
    c.Surveyed := by
  rcases c.start_next parallelism with same | ⟨_, begun⟩
  · exact same ▸ surveyed
  · rw [begun] at surveyed
    refine surveyed.of_next id fun d member => ?_
    rcases List.mem_append.mp member with before | new
    · exact .inl before
    · rw [List.mem_singleton.mp new]
      exact .inr ⟨_, rfl⟩

/-- A discovery of a start opens no splits before it has the partitions. -/
theorem of_discovery (single : c.enumerator.period? = none) {index : Nat}
    {broker : (question : AdminQuestion) → question.Reply} {d : Discovery}
    (found : c.discoveries[index]? = some d) (starts : d.purpose = .start)
    (surveyed : (c.perform readers (.discovery index broker)).next.Surveyed) :
    c.Surveyed ∨ c.Finds := by
  have member := List.mem_of_getElem? found
  obtain ⟨_, phase⟩ := d
  cases starts
  rw [perform_discovery, found] at surveyed
  cases phase with
  | opening opened unopened => exact .inl (.inr ⟨_, member, rfl, opened, unopened, rfl⟩)
  | querying query =>
      cases query with
      | ask question next =>
          refine .inl (surveyed.of_next id fun d among => ?_)
          refine (List.mem_or_eq_of_mem_set among).imp_right ?_
          rintro rfl
          exact ⟨_, rfl⟩
      | done answer =>
          cases answer with
          | ok partitions => exact .inr ⟨_, member, rfl, partitions, rfl⟩
          | error failure =>
              have failed : c.proceed readers index broker
                  ⟨.start, .querying (.done (.error failure))⟩ =
                    ⟨⟨c.enumerator, c.discoveries.eraseIdx index⟩, [], some (.error failure)⟩ := by
                simp [proceed, Enumerator.advance, Enumerator.conclude, single]
              rw [Option.elim_some, failed] at surveyed
              exact .inl (surveyed.of_next id fun d among => .inl (List.mem_of_mem_eraseIdx among))

theorem of_perform (attended : c.Attended) (single : c.enumerator.period? = none)
    (surveyed : (c.perform readers operation).next.Surveyed) : c.Surveyed ∨ c.Finds := by
  have called (quiet : operation.parallelism? = none)
      (other : ∀ index broker, operation ≠ .discovery index broker) : c.Surveyed := by
    refine surveyed.of_next (fun after => ?_) fun d member => .inl ?_
    · refine ((c.perform_change readers operation).course.ends after).resolve_right ?_
      rintro ⟨_, index, broker, discovers⟩
      exact other index broker discovers
    · rwa [c.perform_discoveries readers quiet other] at member
  cases operation with
  | start parallelism => exact .inl surveyed.of_start
  | tick parallelism =>
      rcases c.tick_next parallelism with same | ⟨⟨_, some⟩, _⟩
      · exact .inl (same ▸ surveyed)
      · exact absurd single some
  | discovery index broker =>
      cases found : c.discoveries[index]? with
      | none =>
          rw [perform_discovery, found] at surveyed
          exact .inl surveyed
      | some d =>
          have starts := attended.only single d (List.mem_of_getElem? found)
          exact surveyed.of_discovery single found starts
  | addReader | requestSplit | addSplitsBack | finishSplits | close =>
      exact .inl (called rfl nofun)

end Surveyed
end Coordinator

namespace History

variable (h : History)

/-- At some moment a start had the partitions that it asked for. -/
def Found : Prop :=
  ∃ before c, before <+: h.events ∧
    Runs Coordinator.Step (.ofState h.options h.state) before c ∧ c.Finds

/-- Nobody discovers from time to time for a source with an end or without an interval. -/
def Single : Prop :=
  h.options.stopCursor.isBounded = true ∨ h.options.configuration.partitionDiscoveryInterval = none

variable {h}

theorem Single.period (single : h.Single) : h.current.enumerator.period? = none := by
  rw [Enumerator.period?, h.options_eq, Enumerator.ofState]
  split
  · rfl
  · next endless => exact single.resolve_left endless

theorem Single.settled (single : h.Single) :
    h.current.Settled h.events ∧ (h.current.Surveyed → h.Found) := by
  have kept := h.runs.traced (P := fun before c =>
    Runs Coordinator.Step (.ofState h.options h.state) before c ∧ c.Settled before ∧
      (c.Surveyed → ∃ earlier c', earlier <+: before ∧
        Runs Coordinator.Step (.ofState h.options h.state) earlier c' ∧ c'.Finds)) ?_ ?_
  · exact kept.2
  · refine ⟨.nil _, ⟨nofun, List.forall_mem_nil _⟩, ?_⟩
    rintro (exhausted | ⟨d, member, _⟩)
    · exact nomatch exhausted
    · exact nomatch member
  · rintro before event after c c' _ ⟨runs, settled, found⟩ step
    cases step with
    | perform operation readers =>
        have period := Single.period (h := ⟨h.options, h.state, before, c, runs⟩) single
        have attended := Coordinator.attended_of_runs runs
        have coherent := Coordinator.coherent_of_runs runs
        refine ⟨Runs.concat_iff.mpr ⟨c, runs, .perform operation readers⟩,
          settled.perform attended coherent period, fun surveyed => ?_⟩
        rcases surveyed.of_perform attended period with known | finds
        · obtain ⟨earlier, c', early, ran, finds⟩ := found known
          exact ⟨earlier, c', early.trans (List.prefix_append _ _), ran, finds⟩
        · exact ⟨before, c, List.prefix_append _ _, runs, finds⟩

/-- The last event as a step of the run. -/
theorem Single.answered (single : h.Single) {before : List Event} {event : Event}
    (whole : h.events = before ++ [event]) {outcome : Except Failure Unit}
    (answer : event.answer? = some outcome) : ∃ c : Coordinator, c.Attended ∧ c.Coherent ∧
      c.enumerator.period? = none ∧ c.Answered outcome h.current := by
  obtain ⟨options, state, events, current, runs⟩ := h
  cases whole
  obtain ⟨c, earlier, step⟩ := Runs.concat_iff.mp runs
  have period := Single.period (h := ⟨options, state, before, c, earlier⟩) single
  cases step with
  | perform operation readers =>
      exact ⟨c, Coordinator.attended_of_runs earlier, Coordinator.coherent_of_runs earlier, period,
        Coordinator.answered_of_answer answer⟩

/-- Where discovery is not repeated, a start that succeeds has discovered, and nothing is left to
discover, unless an earlier start has failed. After a failure no start discovers anything, and yet
it may be told that it has succeeded. -/
theorem start_discovers_iff (single : h.Single) :
    (∀ before event, h.events = before ++ [event] → event.answer? = some (.ok ()) →
      (h.Found ∧ h.current.enumerator.discoveryExhausted = true ↔
        ∀ earlier ∈ before, ¬earlier.FailsStart)) ∧
    ((∃ event ∈ h.events, event.FailsStart) →
      ∀ {later : List Event} {last : Coordinator}, Runs Coordinator.Step h.current later last →
        last.discoveries = [] ∧
        last.enumerator.discoveryExhausted = h.current.enumerator.discoveryExhausted ∧
        last.enumerator.state.appended = h.current.enumerator.state.appended ∧
        ∀ event ∈ later, ∀ parallelism, event.operation = .start parallelism →
          event.directives = [] ∧ (event.result = some (.ok ()) ∨
            event.result = some (.error .enumeratorClosed))) := by
  obtain ⟨settled, found⟩ := single.settled
  constructor
  · intro before event whole answer
    obtain ⟨c, attended, coherent, period, answered⟩ := single.answered whole answer
    have spent := answered.spent attended coherent period
    have running := answered.running attended
    constructor
    · rintro ⟨_, exhausted⟩ earlier early fails
      have member : earlier ∈ h.events := whole ▸ List.mem_append_left _ early
      rcases (settled.failed earlier member fails).2 with unexhausted | closed
      · exact nomatch unexhausted.symm.trans exhausted
      · exact nomatch running.symm.trans closed
    · intro unfailed
      have exhausted := (settled.answered running spent.idle).resolve_right ?_
      · exact ⟨found (.inl exhausted), exhausted⟩
      · rintro ⟨other, member, failure, failed⟩
        rw [whole] at member
        rcases List.mem_append.mp member with early | last
        · exact unfailed other early ⟨failure, failed⟩
        · rw [List.mem_singleton.mp last] at failed
          exact nomatch failed.symm.trans answer
  · rintro ⟨event, member, fails⟩ later last run
    exact (settled.failed event member fails).1.quiet single.period run

end History

namespace Sample

/-- Nobody answers. -/
def unavailable : (question : AdminQuestion) → question.Reply
  | .metadata _ => .error (.broker "unavailable")
  | .topics _ => .error (.broker "unavailable")
  | .lastMessageId _ => .error (.broker "unavailable")

/-- The only discovery fails, and the start with it. -/
def failing : List (Operation × Readers) :=
  (.start 1, .ofList [0]) :: List.replicate 2 (.discovery 0 unavailable, .ofList [0])

def failed : History := .play history.options .empty failing

/-- The start is repeated when everything is well again. -/
def again : List (Operation × Readers) := [(.start 1, .ofList [0]), discovering 1 [0]]

def retried : History := .play history.options .empty (failing ++ [(.start 1, .ofList [0])])

/-- A start that has succeeded is repeated. -/
def repeated : History := .play history.options .empty <|
  (.start 1, .ofList [0]) :: List.replicate 4 (discovering 1 [0]) ++ [(.start 1, .ofList [0])]

end Sample

namespace History

theorem start_discovers_iff_repeated :
    (Sample.repeated.Single ∧ Sample.repeated.events.map Event.answer? =
        [none, none, none, none, some (.ok ()), some (.ok ())] ∧
      Sample.repeated.Found ∧ Sample.repeated.current.enumerator.discoveryExhausted = true) ∧
    Sample.failed.Single ∧ (∃ event ∈ Sample.failed.events, event.FailsStart) ∧
      (Sample.failed.current.play Sample.again).1.map Event.answer? = [some (.ok ()), none] ∧
      (Sample.failed.current.play Sample.again).2.discoveries = [] ∧
      (Sample.failed.current.play Sample.again).2.enumerator.state.appended =
        Sample.failed.current.enumerator.state.appended := by
  have answers : Sample.repeated.events.map Event.answer? =
      [none, none, none, none, some (.ok ()), some (.ok ())] := by
    decide +kernel
  have whole : Sample.repeated.events = Sample.repeated.events.take 5 ++
      [⟨.start 1, .ofList [0], [], some (.ok ())⟩] := rfl
  have unfailed : ∀ earlier ∈ Sample.repeated.events.take 5, ¬earlier.FailsStart := by
    rintro earlier early ⟨failure, failed⟩
    have listed := List.mem_map_of_mem (f := Event.answer?) (List.mem_of_mem_take early)
    rw [failed, answers] at listed
    simp at listed
  have fails : ∃ event ∈ Sample.failed.events, event.FailsStart :=
    ⟨_, List.mem_of_getElem? (i := 2) rfl, _, rfl⟩
  have single : Sample.repeated.Single := .inr rfl
  obtain ⟨found, exhausted⟩ := (start_discovers_iff single).1 _ _ whole rfl |>.mpr unfailed
  have single' : Sample.failed.Single := .inr rfl
  obtain ⟨idle, _, appended, _⟩ :=
    (start_discovers_iff single').2 fails (Coordinator.play_runs _ Sample.again)
  exact ⟨⟨single, answers, found, exhausted⟩, single', fails, by decide +kernel, idle, appended⟩

theorem not_start_discovers_retried : ¬∀ h : History, h.Single →
    ∀ before event, h.events = before ++ [event] → event.answer? = some (.ok ()) →
      h.Found ∧ h.current.enumerator.discoveryExhausted = true := by
  intro discovers
  have whole : Sample.retried.events = Sample.retried.events.take 3 ++
      [⟨.start 1, .ofList [0], [], some (.ok ())⟩] := rfl
  have unexhausted : Sample.retried.current.enumerator.discoveryExhausted = false := by
    decide +kernel
  have exhausted := (discovers Sample.retried (.inr rfl) _ _ whole rfl).2
  exact nomatch unexhausted.symm.trans exhausted

end History
end TopicFeed
