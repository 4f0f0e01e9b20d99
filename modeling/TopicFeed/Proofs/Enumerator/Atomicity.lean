import Mathlib.Data.List.InsertIdx
import TopicFeed.Proofs.Enumerator.Serial
/-! The atomicity of discoveries. A discovery looks at the enumerator twice and asks the broker in
between, while everybody else goes on. What comes of it is what comes of a discovery that is taken
in at once, with the answers that it got. -/
namespace TopicFeed

def Progress.question? : Progress → Option AdminQuestion
  | .ask question _ => some question
  | .goOn _ | .finish _ _ _ => none

namespace Coordinator

/-- What is asked in a turn, if a discovery goes on in it. -/
def question? (c : Coordinator) (readers : Readers) : Operation → Option AdminQuestion
  | .discovery index _ =>
    (c.discoveries[index]?).bind fun d => (c.enumerator.advance readers d).question?
  | _ => none

variable {c d : Coordinator}

theorem question?_of_call {readers : Readers} {operation : Operation}
    (other : ∀ index broker, operation ≠ .discovery index broker) :
    c.question? readers operation = none := by
  cases operation with
  | discovery index broker => exact absurd rfl (other index broker)
  | _ => rfl

theorem isStarting_congr
    (purposes : d.discoveries.map Discovery.purpose = c.discoveries.map Discovery.purpose) :
    d.isStarting = c.isStarting := by
  have any (discoveries : List Discovery) : (discoveries.any fun d => d.purpose = .start) =
      (discoveries.map Discovery.purpose).any fun purpose => purpose = .start := by
    rw [List.any_map]
    rfl
  rw [isStarting, isStarting, any, any, purposes]

/-- Turns of two coordinators that differ in how far their discoveries have come. They begin the
same discoveries, and differ in nothing else. -/
structure Alike (c d : Coordinator) (begun : List Survey) (turn turn' : Turn) : Prop where
  fresh : ∀ v ∈ begun, v.answers = []
  enumerator : turn'.next.enumerator = turn.next.enumerator
  discoveries : turn.next.discoveries = c.discoveries ++ begun.map Survey.discovery
  discoveries' : turn'.next.discoveries = d.discoveries ++ begun.map Survey.discovery
  directives : turn'.directives = turn.directives
  result : turn'.result = turn.result

namespace Alike

theorem none {turn turn' : Turn} (enumerator : turn'.next.enumerator = turn.next.enumerator)
    (discoveries : turn.next.discoveries = c.discoveries)
    (discoveries' : turn'.next.discoveries = d.discoveries)
    (directives : turn'.directives = turn.directives) (result : turn'.result = turn.result) :
    Alike c d [] turn turn' :=
  ⟨nofun, enumerator, discoveries.trans (List.append_nil _).symm,
    discoveries'.trans (List.append_nil _).symm, directives, result⟩

variable (same : d.enumerator = c.enumerator)
include same

theorem idle : Alike c d [] c.idle d.idle := .none same rfl rfl rfl rfl

theorem called (outcome : Except Failure (Enumerator × List Directive)) :
    Alike c d [] (c.called outcome) (d.called outcome) := by
  cases outcome with
  | error failure => exact .none same rfl rfl rfl rfl
  | ok changed => exact .none rfl rfl rfl rfl rfl

theorem start (starting : d.isStarting = c.isStarting) (parallelism : UInt32) :
    ∃ begun, Alike c d begun (c.start parallelism) (d.start parallelism) := by
  rw [Coordinator.start, Coordinator.start, starting, same]
  split
  · exact ⟨[], idle same⟩
  · cases early : c.enumerator.lifecycle with
    | init =>
        rw [Enumerator.start, early]
        exact ⟨[⟨.start, _, []⟩], List.forall_mem_singleton.mpr rfl, rfl, rfl, rfl, rfl, rfl⟩
    | running =>
        rw [Enumerator.start, early]
        exact ⟨[], .none rfl rfl rfl rfl rfl⟩
    | closed =>
        rw [Enumerator.start, early]
        exact ⟨[], .none same rfl rfl rfl rfl⟩

theorem tick (parallelism : UInt32) :
    ∃ begun, Alike c d begun (c.tick parallelism) (d.tick parallelism) := by
  rw [Coordinator.tick, Coordinator.tick, same]
  split
  · exact ⟨[], idle same⟩
  · exact ⟨[⟨.periodic, _, []⟩], List.forall_mem_singleton.mpr rfl, rfl, rfl, rfl, rfl, rfl⟩

/-- A call sees of discoveries only on whose behalf they go on. -/
theorem perform
    (purposes : d.discoveries.map Discovery.purpose = c.discoveries.map Discovery.purpose)
    (readers : Readers) {operation : Operation}
    (other : ∀ index broker, operation ≠ .discovery index broker) :
    ∃ begun, Alike c d begun (c.perform readers operation) (d.perform readers operation) := by
  have starting := isStarting_congr purposes
  cases operation with
  | start parallelism => exact start same starting parallelism
  | tick parallelism => exact tick same parallelism
  | discovery index broker => exact absurd rfl (other index broker)
  | addReader | requestSplit | addSplitsBack | finishSplits =>
      rw [Coordinator.perform, Coordinator.perform, same]
      exact ⟨[], called same _⟩
  | close =>
      rw [Coordinator.perform, Coordinator.perform, starting, same]
      split
      · exact ⟨[], idle same⟩
      · exact ⟨[], called same _⟩

end Alike

end Coordinator

/-- A coordinator, and the answers that each of its discoveries got. -/
structure Accompanied where
  enumerator : Enumerator
  discoveries : List (Discovery × Survey)

namespace Accompanied

variable (a : Accompanied)

def coordinator : Coordinator := ⟨a.enumerator, a.discoveries.map Prod.fst⟩

def serial : Serial := ⟨a.enumerator, a.discoveries.map Prod.snd⟩

def set (index : Nat) (d : Discovery) (v : Survey) : Accompanied :=
  { a with discoveries := a.discoveries.set index (d, v) }

def drop (e : Enumerator) (index : Nat) : Accompanied := ⟨e, a.discoveries.eraseIdx index⟩

def begin (e : Enumerator) (begun : List Survey) : Accompanied :=
  ⟨e, a.discoveries ++ begun.map fun v => (v.discovery, v)⟩

@[simp] theorem coordinator_set (index : Nat) (d : Discovery) (v : Survey) :
    (a.set index d v).coordinator =
      { a.coordinator with discoveries := a.coordinator.discoveries.set index d } :=
  congrArg (Coordinator.mk _) List.map_set

@[simp] theorem serial_set (index : Nat) (d : Discovery) (v : Survey) :
    (a.set index d v).serial = { a.serial with surveys := a.serial.surveys.set index v } :=
  congrArg (Serial.mk _) List.map_set

@[simp] theorem coordinator_drop (e : Enumerator) (index : Nat) :
    (a.drop e index).coordinator = ⟨e, a.coordinator.discoveries.eraseIdx index⟩ :=
  congrArg (Coordinator.mk _) (List.eraseIdx_map ..).symm

@[simp] theorem serial_drop (e : Enumerator) (index : Nat) :
    (a.drop e index).serial = ⟨e, a.serial.surveys.eraseIdx index⟩ :=
  congrArg (Serial.mk _) (List.eraseIdx_map ..).symm

@[simp] theorem coordinator_begin (e : Enumerator) (begun : List Survey) :
    (a.begin e begun).coordinator =
      ⟨e, a.coordinator.discoveries ++ begun.map Survey.discovery⟩ := by
  rw [coordinator, begin, List.map_append, List.map_map]
  rfl

@[simp] theorem serial_begin (e : Enumerator) (begun : List Survey) :
    (a.begin e begun).serial = ⟨e, a.serial.surveys ++ begun⟩ := by
  have surveys : begun.map (Prod.snd ∘ fun v => (v.discovery, v)) = begun := List.map_id _
  rw [serial, begin, List.map_append, List.map_map, surveys]
  rfl

/-- The answers that a discovery got lead to where it is. -/
structure Follows (e : Enumerator) (d : Discovery) (v : Survey) : Prop where
  purpose : v.purpose = d.purpose
  phase : d.phase.Continues e v

def Faithful : Prop := ∀ x ∈ a.discoveries, Follows a.enumerator x.1 x.2

variable {a} {index : Nat} {d : Discovery} {v : Survey}

namespace Faithful

theorem follows (faithful : a.Faithful) (here : a.discoveries[index]? = some (d, v)) :
    Follows a.enumerator d v :=
  faithful _ (List.mem_of_getElem? here)

theorem set (faithful : a.Faithful) (follows : Follows a.enumerator d v) :
    (a.set index d v).Faithful := by
  intro x member
  rcases List.mem_or_eq_of_mem_set member with before | rfl
  · exact faithful x before
  · exact follows

theorem drop (faithful : a.Faithful) {e : Enumerator} (options : e.options = a.enumerator.options)
    (grown : ∀ p ∈ a.enumerator.state.appended, p ∈ e.state.appended) :
    (a.drop e index).Faithful := by
  intro x member
  obtain ⟨purpose, phase⟩ := faithful x (List.mem_of_mem_eraseIdx member)
  exact ⟨purpose, phase.mono options grown⟩

theorem begin (faithful : a.Faithful) {e : Enumerator} (options : e.options = a.enumerator.options)
    (grown : ∀ p ∈ a.enumerator.state.appended, p ∈ e.state.appended) {begun : List Survey}
    (fresh : ∀ v ∈ begun, v.answers = []) : (a.begin e begun).Faithful := by
  intro x member
  rcases List.mem_append.mp member with before | new
  · obtain ⟨purpose, phase⟩ := faithful x before
    exact ⟨purpose, phase.mono options grown⟩
  · obtain ⟨v, among, rfl⟩ := List.mem_map.mp new
    refine ⟨rfl, fun rest answer yields => ?_⟩
    rw [fresh v among]
    exact yields

theorem agree (faithful : a.Faithful) :
    a.serial.surveys.map Survey.purpose = a.coordinator.discoveries.map Discovery.purpose := by
  rw [serial, coordinator, List.map_map, List.map_map]
  exact List.map_congr_left fun x member => (faithful x member).purpose

theorem purposes (faithful : a.Faithful) :
    a.serial.coordinator.discoveries.map Discovery.purpose =
      a.coordinator.discoveries.map Discovery.purpose := by
  rw [Serial.coordinator, List.map_map]
  exact faithful.agree

end Faithful

/-- The serial machine can take part in a turn. -/
def Matches (a : Accompanied) (operation : Operation) (readers : Readers) : Prop :=
  ∃ b : Accompanied, b.coordinator = (a.coordinator.perform readers operation).next ∧ b.Faithful ∧
    a.serial.Step (a.coordinator.question? readers operation)
      (a.coordinator.event readers operation) b.serial

section Discovery

variable {readers : Readers} {broker : (question : AdminQuestion) → question.Reply}
  {purpose : Purpose} {opened : List Split}

theorem matches_of_advance (here : a.discoveries[index]? = some (d, v)) {progress : Progress}
    (advanced : a.enumerator.advance readers d = progress) {b : Accompanied} {turn : Turn}
    (turns : a.coordinator.proceed readers index broker d = turn)
    (follows : b.coordinator = turn.next) (faithful : b.Faithful)
    (step : a.serial.Step progress.question?
      ⟨.discovery index broker, readers, turn.directives, turn.result⟩ b.serial) :
    a.Matches (.discovery index broker) readers := by
  have found : a.coordinator.discoveries[index]? = some d := by
    rw [coordinator, List.getElem?_map, here]
    rfl
  have asks : a.coordinator.question? readers (.discovery index broker) = progress.question? := by
    rw [Coordinator.question?, found, ← advanced]
    rfl
  have performs : a.coordinator.perform readers (.discovery index broker) = turn := by
    rw [Coordinator.perform_discovery, found, ← turns]
    rfl
  rw [Matches, Coordinator.event, asks, performs]
  exact ⟨b, follows, faithful, step⟩

variable (faithful : a.Faithful) (here : a.discoveries[index]? = some (d, v))

include here in
theorem survey_at : a.serial.surveys[index]? = some v := by
  rw [serial, List.getElem?_map, here]
  rfl

include faithful here

theorem matches_ask {question : AdminQuestion} {next : question.Reply → Discovery}
    (advanced : a.coordinator.enumerator.advance readers d = .ask question next)
    (follows : Follows a.enumerator (next (broker question)) (v.told question (broker question))) :
    a.Matches (.discovery index broker) readers := by
  refine matches_of_advance here advanced (by rw [Coordinator.proceed, advanced])
    (a.coordinator_set ..) (faithful.set follows) ?_
  rw [serial_set]
  exact .asked question (survey_at here)

theorem matches_goOn {next : Discovery}
    (advanced : a.coordinator.enumerator.advance readers d = .goOn next)
    (follows : Follows a.enumerator next v) : a.Matches (.discovery index broker) readers := by
  refine matches_of_advance here advanced (by rw [Coordinator.proceed, advanced])
    (a.coordinator_set ..) (faithful.set follows) ?_
  rw [serial_set]
  exact .of_waited (survey_at here)

theorem matches_finish {e : Enumerator} {directives : List Directive} {result : Except Failure Unit}
    (advanced : a.coordinator.enumerator.advance readers d = .finish e directives result)
    (step : a.serial.Step none ⟨.discovery index broker, readers, directives,
      if d.purpose = .start then some result else none⟩ ⟨e, a.serial.surveys.eraseIdx index⟩) :
    a.Matches (.discovery index broker) readers := by
  have change := a.coordinator.proceed_change readers index broker d
  rw [Coordinator.proceed, advanced] at change
  refine matches_of_advance here advanced (by rw [Coordinator.proceed, advanced])
    (a.coordinator_drop ..) (faithful.drop change.course.options change.appended_subset) ?_
  rw [serial_drop]
  exact step

/-- An enumerator that is closed is left alone by a discovery, whichever time it looks. -/
theorem matches_refused (attended : a.coordinator.Attended)
    (closed : a.enumerator.lifecycle = .closed)
    (advanced : a.coordinator.enumerator.advance readers d =
      a.enumerator.conclude readers d.purpose [] (.ok ())) :
    a.Matches (.discovery index broker) readers := by
  have periodic := attended.periodic_of_closed closed
    (List.mem_map_of_mem (List.mem_of_getElem? here))
  obtain ⟨e, told, result, ended⟩ := a.enumerator.conclude_finishes readers d.purpose [] (.ok ())
  obtain ⟨rfl, rfl⟩ := Enumerator.conclude_periodic periodic ended
  refine matches_finish faithful here (advanced.trans ended) ?_
  rw [if_neg periodic]
  exact .refused closed

omit here

theorem matches_failed {failure : Failure}
    (here : a.discoveries[index]? = some (⟨purpose, .querying (.done (.error failure))⟩, v)) :
    a.Matches (.discovery index broker) readers := by
  obtain ⟨rfl, continues⟩ := faithful.follows here
  obtain ⟨result, ended⟩ := a.enumerator.conclude_error readers v.purpose failure
  have answered := continues [] _ (.done _)
  rw [List.append_nil] at answered
  exact matches_finish faithful here ended (.failed (survey_at here) answered ended)

theorem matches_merged (running : a.enumerator.lifecycle ≠ .closed)
    (here : a.discoveries[index]? = some (⟨purpose, .opening opened []⟩, v)) :
    a.Matches (.discovery index broker) readers := by
  obtain ⟨rfl, found, learns⟩ := faithful.follows here
  have order := learns.order
  have covers := learns.covers
  rw [List.append_nil] at order covers
  -- more may be known than at the first look, which left out only what was known then
  have merges : a.enumerator.append readers opened = a.enumerator.merge readers found opened := by
    rw [Enumerator.append, EnumeratorState.foldl_add_eq_merge order covers, Enumerator.merge]
  obtain ⟨e, directives, result, ended⟩ :=
    (a.enumerator.merge readers found opened).1.conclude_finishes readers v.purpose
      (a.enumerator.merge readers found opened).2 (.ok ())
  have advanced : a.enumerator.advance readers ⟨v.purpose, .opening opened []⟩ =
      .finish e directives result := by
    rw [← ended, ← merges]
    exact if_neg running
  exact matches_finish faithful here advanced (.merged (survey_at here) running learns ended)

theorem matches_opening {partition : Partition} {unopened : List Partition}
    (here : a.discoveries[index]? =
      some (⟨purpose, .opening opened (partition :: unopened)⟩, v)) :
    a.Matches (.discovery index broker) readers := by
  obtain ⟨same, found, learns⟩ := faithful.follows here
  by_cases unresolved : (a.enumerator.splitOf partition).stopCursor.needsResolving = true
  · have opens := Enumerator.openSplit_of_resolving unresolved
      (broker (.lastMessageId partition.fullName))
    refine matches_ask faithful here (if_pos unresolved) ⟨same, found, ?_⟩
    exact learns.opens (v.told _ _) rfl rfl (Split.resolveBy_partition _ _) opens
  · have opens := Enumerator.openSplit_of_resolved unresolved
    refine matches_goOn faithful here (if_neg unresolved) ⟨same, found, ?_⟩
    exact learns.opens v rfl (List.append_nil _).symm rfl opens

theorem matches_discovery (attended : a.coordinator.Attended)
    (here : a.discoveries[index]? = some (d, v)) : a.Matches (.discovery index broker) readers := by
  have follows := faithful.follows here
  obtain ⟨purpose, phase⟩ := d
  cases phase with
  | querying query =>
      cases query with
      | ask question next =>
          exact matches_ask faithful here rfl
            ⟨follows.purpose, Phase.Continues.ask follows.phase (broker question)⟩
      | done answer =>
          cases answer with
          | error failure => exact matches_failed faithful here
          | ok found =>
              by_cases closed : a.enumerator.lifecycle = .closed
              · exact matches_refused faithful here attended closed (if_pos closed)
              · exact matches_goOn faithful here (if_neg closed)
                  ⟨follows.purpose, found, Phase.Continues.learns follows.phase⟩
  | opening opened unopened =>
      cases unopened with
      | nil =>
          by_cases closed : a.enumerator.lifecycle = .closed
          · exact matches_refused faithful here attended closed (if_pos closed)
          · exact matches_merged faithful closed here
      | cons partition unopened => exact matches_opening faithful here

end Discovery

/-- A discovery that is no more there does nothing, and a call begins at most another one. -/
theorem matches_perform (faithful : a.Faithful) (attended : a.coordinator.Attended)
    (readers : Readers) (operation : Operation) : a.Matches operation readers := by
  by_cases discovers : ∃ index broker, operation = .discovery index broker
  · obtain ⟨index, broker, rfl⟩ := discovers
    cases found : a.discoveries[index]? with
    | some x => exact matches_discovery faithful attended found
    | none =>
        have absent : a.coordinator.discoveries[index]? = none := by
          rw [coordinator, List.getElem?_map, found]
          rfl
        rw [Matches, Coordinator.event, Coordinator.question?, Coordinator.perform_discovery,
          absent]
        exact ⟨a, rfl, faithful, .waited⟩
  · have change := a.coordinator.perform_change readers operation
    have other : ∀ index broker, operation ≠ .discovery index broker :=
      fun index broker same => discovers ⟨index, broker, same⟩
    obtain ⟨begun, alike⟩ := Coordinator.Alike.perform (c := a.coordinator)
      (d := a.serial.coordinator) rfl faithful.purposes readers other
    refine ⟨a.begin (a.coordinator.perform readers operation).next.enumerator begun, ?_, ?_, ?_⟩
    · rw [coordinator_begin, ← alike.discoveries]
    · exact faithful.begin change.course.options change.appended_subset alike.fresh
    · rw [serial_begin, ← alike.enumerator, Coordinator.question?_of_call other, Coordinator.event,
        ← alike.directives, ← alike.result]
      exact .called other (alike.discoveries'.trans List.map_append.symm) alike.fresh

end Accompanied

/-- Both take a turn in which the same happens and the same is asked, and then have the same
enumerator, and discoveries under way on the same behalf. -/
inductive Abreast : Coordinator × Serial → Event → Coordinator × Serial → Prop
  | step {c c' : Coordinator} {s s' : Serial} {event : Event} : c.Step event c' →
      s.Step (c.question? event.readers event.operation) event s' →
      s'.enumerator = c'.enumerator →
      s'.surveys.map Survey.purpose = c'.discoveries.map Discovery.purpose →
      Abreast (c, s) event (c', s')

/-- Whatever happens while discoveries are under way, turn by turn it is what happens when each is
taken in at once where it ends, with the answers that it got. Whenever the state is read, it is the
same. -/
theorem History.linearizable (h : History) : ∃ s, Runs Abreast
    (.ofState h.options h.state, .ofState h.options h.state) h.events (h.current, s) := by
  -- by turns, each discovery kept together with the answers that it got
  have all := h.runs.traced (P := fun before c => ∃ a : Accompanied, a.coordinator = c ∧
    a.Faithful ∧ a.coordinator.Attended ∧ Runs Abreast
      (.ofState h.options h.state, .ofState h.options h.state) before (c, a.serial)) ?_ ?_
  · obtain ⟨a, _, _, _, runs⟩ := all
    exact ⟨a.serial, runs⟩
  · exact ⟨⟨.ofState h.options h.state, []⟩, rfl, List.forall_mem_nil _,
      .ofState h.options h.state, .nil _⟩
  · rintro before _ _ _ _ _ ⟨a, rfl, faithful, attended, runs⟩ step
    cases step with
    | perform operation readers =>
        obtain ⟨b, same, faithful, taken⟩ := a.matches_perform faithful attended readers operation
        refine ⟨b, same, faithful, same ▸ attended.perform readers operation, ?_⟩
        refine Runs.append_iff.mpr ⟨_, runs, .cons (.step ?_ taken ?_ ?_) (.nil _)⟩
        · exact .perform operation readers
        · rw [← same]
          rfl
        · rw [← same]
          exact faithful.agree

end TopicFeed
