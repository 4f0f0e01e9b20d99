import TopicFeed.Proofs.Enumerator.Lifecycle
/-! When a source is complete. An enumerator says so once its only discovery is over and every known
split has been reported finished. For a source with an end that is exact, and it stays so; a source
without an end is told complete as well if it does not look for new partitions. -/
namespace TopicFeed

namespace Event

/-- A start is over, and its discovery did not fail. -/
def EndsStart (event : Event) : Prop :=
  event.result = some (.ok ()) ∧ ∃ index broker, event.operation = .discovery index broker

/-- A split is reported finished, and the report is accepted. -/
def Reports (event : Event) (id : String) : Prop :=
  event.result = some (.ok ()) ∧ ∃ ids, event.operation = .finishSplits ids ∧ id ∈ ids

theorem Reports.reported {event : Event} {id : String} (reports : event.Reports id) :
    id ∈ event.operation.reported := by
  obtain ⟨_, ids, same, listed⟩ := reports
  rw [same]
  exact listed

end Event

theorem Operation.reported_of_returned {operation : Operation} {split : Split}
    (back : split ∈ operation.returned) : split.id ∈ operation.reported := by
  cases operation with
  | addSplitsBack splits reader => exact List.mem_map_of_mem back
  | _ => exact nomatch back

/-- What is returned or reported finished was handed out before. -/
def Operation.Grounded (before : List Event) (operation : Operation) : Prop :=
  ∀ id ∈ operation.reported, ∃ earlier ∈ before, ∃ split ∈ earlier.handed, split.id = id

theorem EnumeratorState.allSplitsFinished_iff {s : EnumeratorState} :
    s.allSplitsFinished = true ↔ s.pending = [] ∧ ∀ p ∈ s.appended, p.toString ∈ s.finished := by
  rw [allSplitsFinished, Bool.and_eq_true, List.isEmpty_iff, List.all_eq_true]
  exact and_congr_right fun _ => forall₂_congr fun p _ => OrderedSet.contains_iff

namespace Enumerator

theorem isFinished_iff {e : Enumerator} : e.isFinished = true ↔ e.discoveryExhausted = true ∧
    e.state.pending = [] ∧ ∀ p ∈ e.state.appended, p.toString ∈ e.state.finished := by
  rw [isFinished, Bool.and_eq_true, EnumeratorState.allSplitsFinished_iff]

variable {e e' : Enumerator} {readers : Readers} {directives told : List Directive}
  {purpose : Purpose} {outcome result : Except Failure Unit}

theorem conclude_result (single : e.period? = none)
    (ended : e.conclude readers .start directives outcome = .finish e' told result) :
    result = outcome := by
  unfold conclude at ended
  rw [single] at ended
  cases outcome <;> exact (Progress.finish.inj ended).2.2.symm

/-- Only a discovery that is the only one, and does not fail, leaves nothing to discover. -/
theorem conclude_exhausted
    (ended : e.conclude readers purpose directives outcome = .finish e' told result) :
    e'.discoveryExhausted = true ↔ e.discoveryExhausted = true ∨
      e.period? = none ∧ purpose = .start ∧ outcome = .ok () := by
  unfold conclude at ended
  split at ended
  · next single =>
    cases outcome with
    | ok =>
        dsimp only at ended
        obtain ⟨rfl, _⟩ := Progress.finish.inj ended
        have exhausted := (signal_stays { e with discoveryExhausted := true } readers).exhausted
        exact iff_of_true exhausted (.inr ⟨single, rfl, rfl⟩)
    | error failure =>
        obtain ⟨rfl, _⟩ := Progress.finish.inj ended
        exact (or_iff_left fun none => nomatch none.2.2).symm
  · next other =>
    obtain ⟨rfl, _⟩ := Progress.finish.inj ended
    exact (or_iff_left fun none => other none.2.1 none.1).symm

theorem Change.finished_eq {operation : Operation}
    (change : e.Change readers operation directives e')
    (other : ∀ ids, operation ≠ .finishSplits ids) : e'.state.finished = e.state.finished := by
  cases change with
  | idle | started | closed => rfl
  | @readerAdded reader =>
      have out := assignPending_handout { e with signalled := e.signalled.erase reader } readers
      exact out.finished
  | requested => exact (e.assignPending_handout readers).finished
  | takenBack => exact (Flow.foldl_takeBack _ _).1
  | finished => exact absurd rfl (other _)
  | abandoned ended => rw [(conclude_finish ended).1]
  | @appended _ _ _ splits _ _ _ _ ended =>
      have out := assignPending_handout
        { e with state := splits.foldl EnumeratorState.add e.state } readers
      obtain ⟨_, _, _, finished⟩ := e.state.foldl_add splits
      rw [(conclude_finish ended).1]
      exact out.finished.trans finished

/-- Where nothing waits and nothing becomes known, nothing is handed out, and only what is returned
waits afterwards. -/
theorem Flow.of_empty {operation : Operation} {handed fresh : List Split}
    (flow : e.Flow operation handed fresh e') (empty : e.state.pending = [])
    (same : e'.state.appended = e.state.appended) : handed = [] ∧
      ∀ split ∈ e'.state.pending, split ∈ operation.returned ∧ split.id ∉ e.state.finished := by
  obtain rfl := flow.grown.eq_nil same
  have still : e.state.pending ++ [] = [] := by
    rw [empty, List.append_nil]
  constructor
  · exact List.eq_nil_iff_forall_not_mem.mpr fun split out =>
      List.ne_nil_of_mem (flow.leaves split out) still
  · exact fun split waits =>
      (flow.waits split waits).resolve_left fun waited => List.ne_nil_of_mem waited still

end Enumerator

namespace Coordinator

section Calls

variable {c : Coordinator} {readers : Readers}

theorem Proceeding.exhausted {index : Nat} {d : Discovery} {turn : Turn}
    (proceeds : c.Proceeding readers index d turn) :
    turn.next.enumerator.discoveryExhausted = true ↔ c.enumerator.discoveryExhausted = true ∨
      c.enumerator.period? = none ∧ turn.result = some (.ok ()) := by
  cases proceeds with
  | goesOn => exact (or_iff_left fun none => nomatch none.2).symm
  | @ends middle e told directives outcome result ends ended =>
      have period := Enumerator.period_congr ends.stays.options
      rw [Enumerator.conclude_exhausted ended, ends.stays.exhausted, period]
      refine or_congr_right (and_congr_right fun single => ?_)
      by_cases starts : d.purpose = .start
      · rw [starts] at ended
        rw [if_pos starts, Option.some_inj, Enumerator.conclude_result (period.trans single) ended]
        exact and_iff_right starts
      · rw [if_neg starts]
        exact iff_of_false (fun none => starts none.1) nofun

/-- Where there is no period, partitions become known only as discovery comes to its end. -/
theorem Proceeding.appended {index : Nat} {d : Discovery} {turn : Turn}
    (proceeds : c.Proceeding readers index d turn) (starts : d.purpose = .start)
    (single : c.enumerator.period? = none) :
    turn.next.enumerator.discoveryExhausted = true ∨
      turn.next.enumerator.state.appended = c.enumerator.state.appended := by
  cases proceeds with
  | goesOn => exact .inr rfl
  | ends ends ended =>
      have period := Enumerator.period_congr ends.stays.options
      cases ends with
      | failed | refused => exact .inr (congrArg _ (Enumerator.conclude_finish ended).1)
      | added =>
          exact .inl ((Enumerator.conclude_exhausted ended).mpr
            (.inr ⟨period.trans single, starts, rfl⟩))

variable (c readers) (operation : Operation)

theorem perform_exhausted :
    (c.perform readers operation).next.enumerator.discoveryExhausted = true ↔
      c.enumerator.discoveryExhausted = true ∨
        c.enumerator.period? = none ∧ (c.event readers operation).EndsStart := by
  by_cases discovers : ∃ index broker, operation = .discovery index broker
  · rw [event, Event.EndsStart, and_iff_left discovers]
    obtain ⟨index, broker, rfl⟩ := discovers
    rw [perform_discovery]
    cases found : c.discoveries[index]? with
    | none => exact (or_iff_left fun none => nomatch none.2).symm
    | some d => exact (c.proceed_proceeding readers index broker d).exhausted
  · have course := (c.perform_change readers operation).course
    have stays : (c.perform readers operation).next.enumerator.discoveryExhausted = true ↔
        c.enumerator.discoveryExhausted = true :=
      ⟨fun after => (course.ends after).resolve_right fun none => discovers none.2, course.lasts⟩
    exact stays.trans (or_iff_left fun none => discovers none.2.2).symm

variable {operation} in
theorem accepts_of_reports {id : String} (reports : (c.event readers operation).Reports id) :
    ∃ ids e, operation = .finishSplits ids ∧ id ∈ ids ∧ c.enumerator.finishSplits ids = .ok e := by
  obtain ⟨accepted, ids, rfl, listed⟩ := reports
  cases ended : c.enumerator.finishSplits ids with
  | error failure =>
      rw [event, perform_finishSplits_refused readers ended] at accepted
      cases accepted
  | ok e => exact ⟨ids, e, rfl, listed, ended⟩

theorem perform_finished (id : String) :
    id ∈ (c.perform readers operation).next.enumerator.state.finished ↔
      id ∈ c.enumerator.state.finished ∨ (c.event readers operation).Reports id := by
  by_cases reports : ∃ ids, operation = .finishSplits ids
  · obtain ⟨ids, rfl⟩ := reports
    rw [event, Event.Reports]
    cases ended : c.enumerator.finishSplits ids with
    | error failure =>
        rw [perform_finishSplits_refused readers ended]
        exact (or_iff_left fun none => nomatch none.1).symm
    | ok e =>
        have listed : (∃ ids', Operation.finishSplits ids = .finishSplits ids' ∧ id ∈ ids') ↔
            id ∈ ids := by
          simp
        rw [listed, perform_finishSplits readers ended, and_iff_right rfl, or_comm,
          Enumerator.finishSplits_eq ended]
        exact OrderedSet.mem_foldl_insert
  · have same := (c.perform_change readers operation).finished_eq fun ids is => reports ⟨ids, is⟩
    rw [same]
    exact (or_iff_left fun ⟨_, ids, is, _⟩ => reports ⟨ids, is⟩).symm

theorem not_pending_of_reports {id : String} (reports : (c.event readers operation).Reports id) :
    id ∉ (c.perform readers operation).next.enumerator.state.pending.map Split.id := by
  obtain ⟨ids, e, rfl, listed, ended⟩ := c.accepts_of_reports readers reports
  rw [perform_finishSplits readers ended, Enumerator.finishSplits_eq ended]
  intro waits
  obtain ⟨split, member, rfl⟩ := List.mem_map.mp waits
  have unlisted := (List.mem_filter.mp member).2
  rw [List.contains_iff_mem.mpr listed] at unlisted
  exact nomatch unlisted

theorem perform_appended (attended : c.Attended) (single : c.enumerator.period? = none) :
    (c.perform readers operation).next.enumerator.discoveryExhausted = true ∨
      (c.perform readers operation).next.enumerator.state.appended =
        c.enumerator.state.appended := by
  cases operation with
  | discovery index broker =>
      rw [perform_discovery]
      cases found : c.discoveries[index]? with
      | none => exact .inr rfl
      | some d =>
          have starts := attended.only single d (List.mem_of_getElem? found)
          exact (c.proceed_proceeding readers index broker d).appended starts single
  | _ => exact .inr ((c.perform_change readers _).appended_eq nofun)

end Calls

section Histories

variable {c : Coordinator} {before : List Event} {readers : Readers} {operation : Operation}

/-- Only splits of known partitions have been handed out, and only such wait. -/
structure Informed (before : List Event) (c : Coordinator) : Prop where
  handed : ∀ event ∈ before, ∀ split ∈ event.handed, c.enumerator.state.Knows split.id
  waiting : ∀ split ∈ c.enumerator.state.pending, c.enumerator.state.Knows split.id

theorem Informed.perform (informed : c.Informed before) (grounded : operation.Grounded before) :
    (c.perform readers operation).next.Informed (before ++ [c.event readers operation]) := by
  obtain ⟨fresh, flow⟩ := (c.perform_change readers operation).flow
  have grown : ∀ p ∈ c.enumerator.state.appended,
      p ∈ (c.perform readers operation).next.enumerator.state.appended :=
    fun p known => (flow.grown.known p).mpr (.inr known)
  have known : ∀ split ∈ c.enumerator.state.pending ++ fresh,
      (c.perform readers operation).next.enumerator.state.Knows split.id := by
    intro split member
    rcases List.mem_append.mp member with waited | new
    · exact (informed.waiting split waited).mono grown
    · exact ⟨split.partition, (flow.grown.known _).mpr (.inl (List.mem_map_of_mem new)), rfl⟩
  constructor
  · intro event member split out
    rcases List.mem_append.mp member with early | last
    · exact (informed.handed event early split out).mono grown
    · rw [List.mem_singleton.mp last] at out
      exact known split (flow.leaves split out)
  · intro split waits
    rcases flow.waits split waits with waited | ⟨back, _⟩
    · exact known split waited
    · obtain ⟨earlier, early, other, out, same⟩ :=
        grounded _ (Operation.reported_of_returned back)
      exact same ▸ (informed.handed earlier early other out).mono grown

/-- While something is left to discover, nothing has been handed out, and nothing that has finished
ever waits. -/
structure Pristine (before : List Event) (c : Coordinator) : Prop where
  untouched : c.enumerator.discoveryExhausted = false →
    (∀ event ∈ before, event.handed = []) ∧ c.enumerator.state.pending = [] ∧
      ∀ id, id ∉ c.enumerator.state.finished
  unfinished : ∀ split ∈ c.enumerator.state.pending, split.id ∉ c.enumerator.state.finished

theorem Pristine.untouched_perform (pristine : c.Pristine before) (attended : c.Attended)
    (single : c.enumerator.period? = none) (grounded : operation.Grounded before)
    (unfinished : (c.perform readers operation).next.enumerator.discoveryExhausted = false) :
    (∀ event ∈ before ++ [c.event readers operation], event.handed = []) ∧
      (c.perform readers operation).next.enumerator.state.pending = [] ∧
      ∀ id, id ∉ (c.perform readers operation).next.enumerator.state.finished := by
  have change := c.perform_change readers operation
  obtain ⟨fresh, flow⟩ := change.flow
  have early : c.enumerator.discoveryExhausted = false :=
    Bool.eq_false_iff.mpr fun exhausted =>
      Bool.eq_false_iff.mp unfinished (change.course.lasts exhausted)
  obtain ⟨none, empty, nothing⟩ := pristine.untouched early
  -- nothing was handed out, so nothing can be returned or reported
  have quiet : ∀ id, id ∉ operation.reported := by
    intro id listed
    obtain ⟨earlier, member, split, out, _⟩ := grounded id listed
    rw [none earlier member] at out
    exact List.not_mem_nil out
  have same := (c.perform_appended readers operation attended single).resolve_left
    (Bool.eq_false_iff.mp unfinished)
  obtain ⟨silent, back⟩ := flow.of_empty empty same
  refine ⟨List.forall_mem_append.mpr ⟨none, List.forall_mem_singleton.mpr silent⟩, ?_, ?_⟩
  · exact List.eq_nil_iff_forall_not_mem.mpr fun split waits =>
      quiet _ (Operation.reported_of_returned (back split waits).1)
  · intro id finished
    rcases (c.perform_finished readers operation id).mp finished with before | reports
    · exact nothing id before
    · exact quiet id reports.reported

theorem Pristine.unfinished_perform (pristine : c.Pristine before) (coherent : c.Coherent) :
    ∀ split ∈ (c.perform readers operation).next.enumerator.state.pending,
      split.id ∉ (c.perform readers operation).next.enumerator.state.finished := by
  obtain ⟨fresh, flow⟩ := (c.perform_change readers operation).flow
  intro split waits finished
  rcases (c.perform_finished readers operation split.id).mp finished with before | reports
  · rcases flow.waits split waits with waited | ⟨_, unfinished⟩
    · rcases List.mem_append.mp waited with old | new
      · exact pristine.unfinished split old before
      · -- a new partition: discovery was not over, so nothing can have finished
        cases exhausted : c.enumerator.discoveryExhausted with
        | false => exact (pristine.untouched exhausted).2.2 _ before
        | true =>
            have same := coherent.appended_eq exhausted readers operation
            rw [flow.grown.eq_nil same] at new
            exact List.not_mem_nil new
    · exact unfinished before
  · exact c.not_pending_of_reports readers operation reports (List.mem_map_of_mem waits)

theorem Pristine.perform (pristine : c.Pristine before) (attended : c.Attended)
    (coherent : c.Coherent) (single : c.enumerator.period? = none)
    (grounded : operation.Grounded before) :
    (c.perform readers operation).next.Pristine (before ++ [c.event readers operation]) :=
  ⟨pristine.untouched_perform attended single grounded, pristine.unfinished_perform coherent⟩

theorem Informed.stays_finished (informed : c.Informed before) (coherent : c.Coherent)
    (readers : Readers) (grounded : operation.Grounded before)
    (done : c.enumerator.isFinished = true) :
    (c.perform readers operation).next.enumerator.isFinished = true ∧
      (c.event readers operation).handed = [] := by
  have change := c.perform_change readers operation
  obtain ⟨fresh, flow⟩ := change.flow
  obtain ⟨exhausted, empty, finished⟩ := Enumerator.isFinished_iff.mp done
  have same := coherent.appended_eq exhausted readers operation
  obtain ⟨silent, returned⟩ := flow.of_empty empty same
  refine ⟨Enumerator.isFinished_iff.mpr ⟨change.course.lasts exhausted, ?_, ?_⟩, silent⟩
  · refine List.eq_nil_iff_forall_not_mem.mpr fun split waits => ?_
    obtain ⟨back, unfinished⟩ := returned split waits
    -- what is returned was handed out, so its partition is known, and it has finished
    obtain ⟨earlier, early, other, out, is⟩ := grounded _ (Operation.reported_of_returned back)
    obtain ⟨p, known, name⟩ := informed.handed earlier early other out
    exact unfinished (is ▸ name ▸ finished p known)
  · intro p known
    exact flow.finished _ (finished p (same ▸ known))

end Histories
end Coordinator

namespace History

/-- A start of the enumerator is over, and its discovery did not fail. -/
def Started (h : History) : Prop := ∃ event ∈ h.events, event.EndsStart

variable (h : History)

theorem options_eq :
    h.current.enumerator.options = (Enumerator.ofState h.options h.state).options := by
  refine h.runs.traced
    (P := fun _ c => c.enumerator.options = (Enumerator.ofState h.options h.state).options) rfl ?_
  rintro _ _ _ c _ _ same step
  cases step with
  | perform operation readers =>
      exact (c.perform_change readers operation).course.options.trans same

/-- Nothing is left to discover exactly once a start has succeeded that begins the only
discovery. -/
theorem exhausted_iff : h.current.enumerator.discoveryExhausted = true ↔
    h.current.enumerator.period? = none ∧ h.Started := by
  refine h.runs.traced (P := fun before c => c.enumerator.discoveryExhausted = true ↔
    c.enumerator.period? = none ∧ ∃ event ∈ before, event.EndsStart) ?_ ?_
  · exact iff_of_false nofun fun ⟨_, _, member, _⟩ => List.not_mem_nil member
  · rintro before _ _ c _ _ same step
    cases step with
    | perform operation readers =>
        have period := Enumerator.period_congr (c.perform_change readers operation).course.options
        rw [c.perform_exhausted readers operation, same, period, ← and_or_left]
        refine and_congr_right fun _ => ?_
        simp only [List.mem_append, List.mem_singleton, or_and_right, exists_or, exists_eq_left]
        rfl

/-- From the empty state on, what has finished is what was reported. -/
theorem mem_finished_iff (fresh : h.state = .empty) (id : String) :
    id ∈ h.current.enumerator.state.finished ↔ ∃ event ∈ h.events, event.Reports id := by
  refine h.runs.traced (P := fun before c =>
    id ∈ c.enumerator.state.finished ↔ ∃ event ∈ before, event.Reports id) ?_ ?_
  · rw [fresh]
    exact iff_of_false List.not_mem_nil fun ⟨_, member, _⟩ => List.not_mem_nil member
  · rintro before _ _ c _ _ same step
    cases step with
    | perform operation readers =>
        rw [c.perform_finished readers operation, same]
        simp only [List.mem_append, List.mem_singleton, or_and_right, exists_or, exists_eq_left]
        rfl

theorem period_of_bounded (bounded : h.options.stopCursor.isBounded = true) :
    h.current.enumerator.period? = none := by
  rw [Enumerator.period?, h.options_eq, Enumerator.ofState, if_pos bounded]
  rfl

theorem informed (fresh : h.state = .empty) (orderly : h.Orderly) :
    h.current.Informed h.events := by
  refine h.runs.traced (P := fun before c => c.Informed before) ?_ ?_
  · rw [fresh]
    exact ⟨List.forall_mem_nil _, List.forall_mem_nil _⟩
  · rintro before _ _ c _ whole informed step
    cases step with
    | perform operation readers => exact informed.perform (orderly.reported whole)

theorem pristine (fresh : h.state = .empty) (orderly : h.Orderly)
    (single : h.current.enumerator.period? = none) : h.current.Pristine h.events := by
  have kept := h.runs.traced (P := fun before c => c.Attended ∧ c.Coherent ∧
    c.enumerator.period? = h.current.enumerator.period? ∧ c.Pristine before) ?_ ?_
  · exact kept.2.2.2
  · refine ⟨.ofState _ _, .ofState _ _, (Enumerator.period_congr h.options_eq).symm, ?_⟩
    rw [fresh]
    exact ⟨fun _ => ⟨List.forall_mem_nil _, rfl, nofun⟩, List.forall_mem_nil _⟩
  · rintro before _ _ c _ whole ⟨attended, coherent, period, pristine⟩ step
    cases step with
    | perform operation readers =>
        have options := (c.perform_change readers operation).course.options
        exact ⟨attended.perform readers operation, coherent.perform readers operation,
          (Enumerator.period_congr options).trans period,
          pristine.perform attended coherent (period.trans single) (orderly.reported whole)⟩

/-- A source with an end is complete exactly once its start has succeeded and the split of every
known partition was reported finished. It stays so, and nothing is handed out any more. -/
theorem complete_iff (bounded : h.options.stopCursor.isBounded = true) (fresh : h.state = .empty)
    (orderly : h.Orderly) :
    (h.current.enumerator.isFinished = true ↔ h.Started ∧
      ∀ p ∈ h.current.enumerator.state.appended, ∃ event ∈ h.events, event.Reports p.toString) ∧
    (h.current.enumerator.isFinished = true → ∀ {events : List Event} {last : Coordinator}
      (later : Runs Coordinator.Step h.current events last), (h.extend later).Orderly →
        last.enumerator.isFinished = true ∧ ∀ event ∈ events, event.handed = []) := by
  have single := h.period_of_bounded bounded
  have informed := h.informed fresh orderly
  have pristine := h.pristine fresh orderly single
  constructor
  · rw [Enumerator.isFinished_iff, h.exhausted_iff, and_iff_right single]
    simp only [h.mem_finished_iff fresh]
    refine and_congr_right fun _ => and_iff_right_of_imp fun reported => ?_
    -- what waits has not finished, so nothing waits once all was reported
    refine List.eq_nil_iff_forall_not_mem.mpr fun split waits => ?_
    obtain ⟨p, known, same⟩ := informed.waiting split waits
    exact pristine.unfinished split waits
      ((h.mem_finished_iff fresh _).mpr (same ▸ reported p known))
  · intro done events last later orderly
    have kept := later.traced (P := fun after c => c.Informed (h.events ++ after) ∧ c.Coherent ∧
      c.enumerator.isFinished = true ∧ ∀ event ∈ after, event.handed = []) ?_ ?_
    · exact kept.2.2
    · rw [List.append_nil]
      exact ⟨informed, Coordinator.coherent_of_runs h.runs, done, List.forall_mem_nil _⟩
    · rintro before event after c _ whole ⟨informed, coherent, done, silent⟩ step
      have entire : (h.extend later).events = (h.events ++ before) ++ event :: after := by
        rw [List.append_assoc, ← whole]
        rfl
      have grounded := orderly.reported entire
      cases step with
      | perform operation readers =>
          obtain ⟨still, quiet⟩ := informed.stays_finished coherent readers grounded done
          rw [← List.append_assoc]
          exact ⟨informed.perform grounded, coherent.perform readers operation, still,
            List.forall_mem_append.mpr ⟨silent, List.forall_mem_singleton.mpr quiet⟩⟩

end History

namespace Sample

/-- The splits of two partitions are dealt to a reader, which reports both finished. -/
def completed : History := .play { unbounded with stopCursor := .latest none } .empty <|
  (.start 1, .ofList [0]) :: List.replicate 5 (discovering 2 [0]) ++
    [(.finishSplits [(dealt 0).id, (dealt 1).id], .ofList [0])]

/-- The reader fails after all, another one registers, and somebody tries to discover again. -/
def late : List (Operation × Readers) :=
  [(.addSplitsBack [dealt 0, dealt 1] 0, ∅), (.addReader 1, .ofList [1]),
    (.requestSplit, .ofList [1]), (.start 1, .ofList [1]), (.tick 1, .ofList [1])]

end Sample

namespace History

theorem complete_iff_completed :
    Sample.completed.options.stopCursor.isBounded = true ∧ Sample.completed.state = .empty ∧
      Sample.completed.Orderly ∧
      (Sample.completed.extend (Coordinator.play_runs _ Sample.late)).Orderly ∧
      Sample.completed.current.enumerator.state.appended.toList.length = 2 ∧
      Sample.completed.Started ∧
      (∀ p ∈ Sample.completed.current.enumerator.state.appended,
        ∃ event ∈ Sample.completed.events, event.Reports p.toString) ∧
      (Sample.completed.current.play Sample.late).2.enumerator.isFinished = true ∧
      ∀ event ∈ (Sample.completed.current.play Sample.late).1, event.handed = [] := by
  have orderly : Sample.completed.Orderly := by
    decide +kernel
  have done : Sample.completed.current.enumerator.isFinished = true := by
    decide +kernel
  have later : (Sample.completed.extend (Coordinator.play_runs _ Sample.late)).Orderly := by
    decide +kernel
  obtain ⟨exact, stays⟩ := Sample.completed.complete_iff rfl rfl orderly
  obtain ⟨started, reported⟩ := exact.mp done
  exact ⟨rfl, rfl, orderly, later, by decide +kernel, started, reported, stays done _ later⟩

/-- A source without an end is told complete as well, but only one that discovers once. -/
theorem endless_iff (h : History) (endless : h.options.stopCursor = .never) :
    h.current.enumerator.isFinished = true ↔
      h.options.configuration.partitionDiscoveryInterval = none ∧ h.Started ∧
        h.current.enumerator.state.pending = [] ∧
        ∀ p ∈ h.current.enumerator.state.appended,
          p.toString ∈ h.current.enumerator.state.finished := by
  have unbounded : h.options.stopCursor.isBounded = false := by
    rw [endless]
    rfl
  have period : h.current.enumerator.period? =
      h.options.configuration.partitionDiscoveryInterval := by
    rw [Enumerator.period?, h.options_eq, Enumerator.ofState, unbounded]
    rfl
  rw [Enumerator.isFinished_iff, h.exhausted_iff, period, and_assoc]

end History

namespace Sample

/-- The only topic of a source without an end is not there when the only discovery asks for it. -/
def missing : History := .play history.options .empty <|
  (.start 1, ∅) :: List.replicate 3 (.discovery 0 fun
    | .metadata topic => .error (.notFound topic)
    | .topics _ => .ok []
    | .lastMessageId _ => .ok .earliest, ∅)

end Sample

namespace History

theorem endless_iff_missing : Sample.missing.options.stopCursor = .never ∧
    Sample.missing.options.configuration.partitionDiscoveryInterval = none ∧
    Sample.missing.Started ∧ Sample.missing.current.enumerator.isFinished = true := by
  have started : Sample.missing.Started :=
    ⟨_, List.mem_of_getElem? (i := 3) rfl, rfl, 0, _, rfl⟩
  have finished : Sample.missing.current.enumerator.state.allSplitsFinished = true := by
    decide +kernel
  have done := (Sample.missing.endless_iff rfl).mpr
    ⟨rfl, started, EnumeratorState.allSplitsFinished_iff.mp finished⟩
  exact ⟨rfl, rfl, started, done⟩

theorem not_endless_missing : ¬∀ h : History, h.options.stopCursor = .never →
    h.current.enumerator.isFinished = false := by
  intro never
  have done : Sample.missing.current.enumerator.isFinished = true := by
    decide +kernel
  exact nomatch done.symm.trans (never Sample.missing rfl)

end History
end TopicFeed
