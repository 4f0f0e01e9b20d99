import TopicFeed.Proofs.Enumerator.Flow
/-! The end of discovery. An enumerator without a period discovers once, when it starts, and from
then on there is nothing left to discover. -/
namespace TopicFeed

/-- The parallelism that a discovery is to begin with. -/
def Operation.parallelism? : Operation → Option UInt32
  | .start parallelism => some parallelism
  | .tick parallelism => some parallelism
  | _ => none

namespace Enumerator

theorem period_congr {e e' : Enumerator} (options : e'.options = e.options) :
    e'.period? = e.period? := by
  rw [period?, options, period?]

/-- What only starting, closing and discovering may change. -/
structure Stays (e e' : Enumerator) : Prop where
  options : e'.options = e.options
  lifecycle : e'.lifecycle = e.lifecycle
  exhausted : e'.discoveryExhausted = e.discoveryExhausted

namespace Stays

variable {e e' last : Enumerator}

protected theorem rfl : e.Stays e := ⟨Eq.refl _, Eq.refl _, Eq.refl _⟩

theorem trans (first : e.Stays e') (second : e'.Stays last) : e.Stays last :=
  ⟨second.options.trans first.options, second.lifecycle.trans first.lifecycle,
    second.exhausted.trans first.exhausted⟩

/-- What else an enumerator has may differ before. -/
theorem of_update (stays : e'.Stays last) (options : e'.options = e.options)
    (lifecycle : e'.lifecycle = e.lifecycle)
    (exhausted : e'.discoveryExhausted = e.discoveryExhausted) : e.Stays last :=
  Stays.trans ⟨options, lifecycle, exhausted⟩ stays

end Stays

variable (e : Enumerator) (readers : Readers)

theorem signal_stays : e.Stays (e.signal readers).1 := by
  rw [signal]
  split <;> exact ⟨rfl, rfl, rfl⟩

theorem deal_stays (readers : List UInt32) (assignment : Assignment) (splits : List Split) :
    e.Stays (deal readers e assignment splits).1 := by
  induction splits generalizing e assignment with
  | nil => exact .rfl
  | cons split rest ih =>
      rw [deal]
      split
      · exact .rfl
      · exact .of_update (ih _ _) rfl rfl rfl

theorem assignPending_stays : e.Stays (e.assignPending readers).1 := by
  rw [assignPending]
  split
  · exact e.signal_stays readers
  · exact .of_update ((deal_stays _ readers.toList ∅ _).trans (signal_stays _ readers)) rfl rfl rfl

theorem takeBack_stays (split : Split) : e.Stays (e.takeBack split) := by
  rw [takeBack]
  dsimp only
  split <;> exact ⟨rfl, rfl, rfl⟩

theorem foldl_takeBack_stays (splits : List Split) : e.Stays (splits.foldl takeBack e) := by
  induction splits generalizing e with
  | nil => exact .rfl
  | cons split rest ih => exact (e.takeBack_stays split).trans (ih _)

/-- How a turn may bring discovery to its end. -/
structure Course (e : Enumerator) (operation : Operation) (e' : Enumerator) : Prop where
  options : e'.options = e.options
  begun : e'.lifecycle = .init → e.lifecycle = .init
  lasts : e.discoveryExhausted = true → e'.discoveryExhausted = true
  ends : e'.discoveryExhausted = true → e.discoveryExhausted = true ∨
    e.period? = none ∧ ∃ index broker, operation = .discovery index broker

namespace Course

variable {e e' : Enumerator} {operation : Operation}

theorem of_stays (stays : e.Stays e') : e.Course operation e' where
  options := stays.options
  begun := stays.lifecycle ▸ id
  lasts := stays.exhausted ▸ id
  ends := fun exhausted => .inl (stays.exhausted ▸ exhausted)

theorem of_conclude {readers : Readers} {purpose : Purpose} {directives told : List Directive}
    {outcome result : Except Failure Unit} {index : Nat}
    {broker : (question : AdminQuestion) → question.Reply}
    (ended : e.conclude readers purpose directives outcome = .finish e' told result) :
    e.Course (.discovery index broker) e' := by
  rcases conclude_cases ended with ⟨rfl, _⟩ | ⟨single, rfl, _⟩
  · exact .of_stays .rfl
  · have stays := signal_stays { e with discoveryExhausted := true } readers
    exact ⟨stays.options, fun early => stays.lifecycle.symm.trans early, fun _ => stays.exhausted,
      fun _ => .inr ⟨single, index, broker, rfl⟩⟩

theorem after_stays {middle : Enumerator} (stays : e.Stays middle)
    (course : middle.Course operation e') : e.Course operation e' where
  options := course.options.trans stays.options
  begun := fun early => stays.lifecycle ▸ course.begun early
  lasts := fun exhausted => course.lasts (stays.exhausted.trans exhausted)
  ends := by
    rw [← stays.exhausted, ← period_congr stays.options]
    exact course.ends

end Course

theorem Change.course {e e' : Enumerator} {readers : Readers} {operation : Operation}
    {directives : List Directive} (change : e.Change readers operation directives e') :
    e.Course operation e' := by
  cases change with
  | idle => exact .of_stays .rfl
  | started => exact ⟨rfl, nofun, id, .inl⟩
  | closed => exact ⟨rfl, nofun, id, .inl⟩
  | readerAdded => exact .of_stays (.of_update (assignPending_stays _ readers) rfl rfl rfl)
  | requested => exact .of_stays (e.assignPending_stays readers)
  | takenBack => exact .of_stays (.of_update (foldl_takeBack_stays _ _) rfl rfl rfl)
  | finished ended =>
      rw [finishSplits_eq ended]
      exact .of_stays ⟨rfl, rfl, rfl⟩
  | abandoned ended => exact .of_conclude ended
  | appended _ ended =>
      refine .after_stays ?_ (.of_conclude ended)
      exact .of_update (assignPending_stays _ readers) rfl rfl rfl

/-- Only a discovery makes partitions known. -/
theorem Change.appended_eq {e e' : Enumerator} {readers : Readers} {operation : Operation}
    {directives : List Directive} (change : e.Change readers operation directives e')
    (other : ∀ index broker, operation ≠ .discovery index broker) :
    e'.state.appended = e.state.appended := by
  cases change with
  | idle | started | closed => rfl
  | @readerAdded reader =>
      have out := assignPending_handout { e with signalled := e.signalled.erase reader } readers
      exact out.appended
  | requested => exact (e.assignPending_handout readers).appended
  | takenBack => exact appended_foldl_takeBack _ _
  | finished ended => rw [finishSplits_eq ended]
  | abandoned => exact absurd rfl (other _ _)
  | appended => exact absurd rfl (other _ _)

end Enumerator

namespace Coordinator

variable {c : Coordinator}

/-- A start that does anything begins the first discovery. -/
theorem start_next (c : Coordinator) (n : UInt32) : (c.start n).next = c ∨
    c.enumerator.lifecycle = .init ∧ (c.start n).next =
      ⟨{ c.enumerator with lifecycle := .running },
        c.discoveries ++ [c.enumerator.discover .start n]⟩ := by
  rw [start]
  split
  · exact .inl rfl
  · cases early : c.enumerator.lifecycle with
    | init =>
        rw [Enumerator.start, early]
        exact .inr ⟨rfl, rfl⟩
    | running =>
        rw [Enumerator.start, early]
        exact .inl rfl
    | closed =>
        rw [Enumerator.start, early]
        exact .inl rfl

/-- Later discoveries begin only where there is a period. -/
theorem tick_next (c : Coordinator) (n : UInt32) : (c.tick n).next = c ∨
    (c.enumerator.lifecycle ≠ .init ∧ c.enumerator.period? ≠ none) ∧ (c.tick n).next =
      { c with discoveries := c.discoveries ++ [c.enumerator.discover .periodic n] } := by
  rw [tick]
  split
  · exact .inl rfl
  · next periodic =>
    refine .inr ⟨⟨fun early => ?_, fun none => ?_⟩, rfl⟩
    · simp [early] at periodic
    · simp [none] at periodic

/-- Calls from readers begin no discovery, and end none. -/
theorem perform_discoveries (c : Coordinator) (readers : Readers) {operation : Operation}
    (still : operation.parallelism? = none)
    (other : ∀ index broker, operation ≠ .discovery index broker) :
    (c.perform readers operation).next.discoveries = c.discoveries := by
  have called (outcome : Except Failure (Enumerator × List Directive)) :
      (c.called outcome).next.discoveries = c.discoveries := by
    cases outcome <;> rfl
  cases operation with
  | start | tick => exact nomatch still
  | discovery index broker => exact absurd rfl (other index broker)
  | addReader | requestSplit | addSplitsBack | finishSplits => exact called _
  | close =>
      rw [perform]
      split
      · rfl
      · exact called _

/-- An enumerator without a period discovers once, when it starts, and is exhausted after that. -/
structure Coherent (c : Coordinator) : Prop where
  fresh : c.enumerator.lifecycle = .init →
    c.discoveries = [] ∧ c.enumerator.discoveryExhausted = false
  single : c.enumerator.period? = none → c.discoveries.length ≤ 1
  finished : c.enumerator.discoveryExhausted = true →
    c.enumerator.period? = none ∧ c.discoveries = []

namespace Coherent

theorem ofState (options : EnumeratorOptions) (state : EnumeratorState) :
    (Coordinator.ofState options state).Coherent :=
  ⟨fun _ => ⟨rfl, rfl⟩, fun _ => Nat.zero_le 1, nofun⟩

/-- A turn that is no discovery, and leaves those that are under way as they are. -/
theorem of_course (coherent : c.Coherent) {operation : Operation} {next : Coordinator}
    (course : c.enumerator.Course operation next.enumerator)
    (same : next.discoveries = c.discoveries)
    (other : ∀ index broker, operation ≠ .discovery index broker) : next.Coherent := by
  have before : next.enumerator.discoveryExhausted = true →
      c.enumerator.discoveryExhausted = true := by
    intro exhausted
    rcases course.ends exhausted with before | ⟨_, index, broker, discovers⟩
    · exact before
    · exact absurd discovers (other index broker)
  have period := Enumerator.period_congr course.options
  constructor
  · intro early
    obtain ⟨none, unfinished⟩ := coherent.fresh (course.begun early)
    refine ⟨same.trans none, Bool.eq_false_iff.mpr fun exhausted => ?_⟩
    rw [before exhausted] at unfinished
    exact nomatch unfinished
  · rw [period, same]
    exact coherent.single
  · rw [period, same]
    exact fun exhausted => coherent.finished (before exhausted)

theorem start (coherent : c.Coherent) (parallelism : UInt32) :
    (c.start parallelism).next.Coherent := by
  rcases c.start_next parallelism with same | ⟨early, begun⟩
  · rw [same]
    exact coherent
  · obtain ⟨none, unfinished⟩ := coherent.fresh early
    rw [begun]
    refine ⟨nofun, fun _ => ?_, fun exhausted => ?_⟩
    · rw [none]
      exact Nat.le_refl 1
    · exact nomatch unfinished.symm.trans exhausted

theorem tick (coherent : c.Coherent) (parallelism : UInt32) :
    (c.tick parallelism).next.Coherent := by
  rcases c.tick_next parallelism with same | ⟨⟨begun, some⟩, discovers⟩
  · rw [same]
    exact coherent
  · rw [discovers]
    exact ⟨fun early => absurd early begun, fun none => absurd none some,
      fun exhausted => absurd (coherent.finished exhausted).1 some⟩

theorem proceed (coherent : c.Coherent) (readers : Readers) {index : Nat}
    (broker : (question : AdminQuestion) → question.Reply) {d : Discovery}
    (found : c.discoveries[index]? = some d) :
    (c.proceed readers index broker d).next.Coherent := by
  obtain ⟨within, _⟩ := List.getElem?_eq_some_iff.mp found
  have busy : c.discoveries ≠ [] := by
    intro none
    rw [none] at within
    exact Nat.not_lt_zero _ within
  have set (next : Discovery) :
      Coherent { c with discoveries := c.discoveries.set index next } := by
    refine ⟨fun early => absurd (coherent.fresh early).1 busy, fun none => ?_,
      fun exhausted => absurd (coherent.finished exhausted).2 busy⟩
    rw [List.length_set]
    exact coherent.single none
  have course := (c.proceed_change readers index broker d).course
  rw [Coordinator.proceed] at course ⊢
  split at course
  · exact set _
  · exact set _
  · next e directives result ended =>
    have period : e.period? = c.enumerator.period? := Enumerator.period_congr course.options
    have fewer : (c.discoveries.eraseIdx index).length + 1 = c.discoveries.length :=
      List.length_eraseIdx_add_one within
    refine ⟨fun early => absurd (coherent.fresh (course.begun early)).1 busy, fun none => ?_, ?_⟩
    · have one := coherent.single (period ▸ none)
      dsimp only
      omega
    · intro exhausted
      rcases course.ends exhausted with before | ⟨none, _⟩
      · exact absurd (coherent.finished before).2 busy
      · have one := coherent.single none
        exact ⟨period.trans none, List.length_eq_zero_iff.mp (by dsimp only; omega)⟩

theorem perform (coherent : c.Coherent) (readers : Readers) (operation : Operation) :
    (c.perform readers operation).next.Coherent := by
  have course := (c.perform_change readers operation).course
  cases operation with
  | start parallelism => exact coherent.start parallelism
  | tick parallelism => exact coherent.tick parallelism
  | discovery index broker =>
      rw [perform_discovery]
      cases found : c.discoveries[index]? with
      | none => exact coherent
      | some d => exact coherent.proceed readers broker found
  | addReader | requestSplit | addSplitsBack | finishSplits | close =>
      exact coherent.of_course course (c.perform_discoveries readers rfl nofun) nofun

/-- Once nothing is left to discover, no partition becomes known. -/
theorem appended_eq (coherent : c.Coherent) (exhausted : c.enumerator.discoveryExhausted = true)
    (readers : Readers) (operation : Operation) :
    (c.perform readers operation).next.enumerator.state.appended =
      c.enumerator.state.appended := by
  cases operation with
  | discovery index broker =>
      rw [perform_discovery, (coherent.finished exhausted).2]
      rfl
  | _ => exact (c.perform_change readers _).appended_eq nofun

end Coherent

theorem coherent_of_runs {options : EnumeratorOptions} {state : EnumeratorState}
    {events : List Event} (runs : Runs Step (.ofState options state) events c) : c.Coherent := by
  refine runs.traced (P := fun _ c => c.Coherent) (.ofState options state) ?_
  rintro _ _ _ c _ _ coherent step
  cases step with
  | perform operation readers => exact coherent.perform readers operation

end Coordinator
end TopicFeed
