import TopicFeed.Proofs.Reader.Transcript
import TopicFeed.Reader.SplitReader
/-! The opening of a split. It may ask for the last message, to resolve the end and to check the
start; then it makes a consumer and moves it to where the split goes on. -/
namespace TopicFeed

open Dialogue

theorem Split.opened_yields {s s' : Split} {t : Transcript}
    (h : (Query.toExchange s.opened).Yields t (.ok s')) :
    (s.stopCursor.needsResolving = false ∧ t = [] ∧ s' = s) ∨
      (s.stopCursor.needsResolving = true ∧ ∃ last,
        t = [⟨.admin (.lastMessageId s.partition.fullName), .ok last⟩] ∧ s' = s.resolve last) := by
  rw [Split.opened] at h
  split at h
  · next needed =>
    obtain ⟨reply, u, rfl, next⟩ := yields_ask.mp h
    cases reply with
    | ok last =>
        obtain ⟨rfl, same⟩ := yields_done.mp next
        cases same
        exact .inr ⟨needed, last, rfl, rfl⟩
    | error cause => exact nomatch (yields_done.mp next).2
  · next known =>
    obtain ⟨rfl, same⟩ := yields_done.mp h
    cases same
    exact .inl ⟨by simpa using known, rfl, rfl⟩

namespace SplitReader

theorem verifyStart_meets (context : ReaderContext) (split : Split) :
    (verifyStart context split).Meets (fun q => ∃ question, q = .admin question)
      fun _ => True := by
  rw [verifyStart]
  split
  · trivial
  split
  · trivial
  refine ⟨⟨_, rfl⟩, fun reply => ?_⟩
  cases reply with
  | error cause => trivial
  | ok last =>
      simp only [pure_bind]
      split <;> trivial

/-- Nothing is asked about the start of a split that goes on, or that starts at either end. -/
theorem verifyStart_eq (context : ReaderContext) {split : Split}
    (begun : split.isResumed = true ∨ split.startPosition = .earliest ∨
      split.startPosition = .latest) : verifyStart context split = .done (.ok ()) := by
  rw [verifyStart]
  split
  · rfl
  · next id inclusive start =>
    apply if_pos
    rcases begun with resumed | earliest | latest
    · simp [resumed]
    · rw [start] at earliest
      cases earliest
      simp [MessageId.isConcrete]
    · rw [start] at latest
      cases latest
      simp [MessageId.isConcrete]

structure Opening (context : ReaderContext) (split : Split) (t : Transcript)
    (opened : ActiveSplit) : Prop where
  asked : ∃ questions now, (∀ e ∈ questions, ∃ question, e.1 = Question.admin question) ∧
    t = questions ++ [⟨.subscribe (consumerOptions context opened.split.partition),
      .ok opened.consumer⟩, ⟨.seek opened.consumer opened.split.seekPosition, .ok ()⟩,
      ⟨.time, now⟩]
  resolved : split.stopCursor.needsResolving = false ∧ opened.split = split ∨
    split.stopCursor.needsResolving = true ∧ ∃ last, opened.split = split.resolve last
  finished : opened.finished = opened.split.stopCursor.isExhausted
  unreported : opened.finishReported = false
  made : ∃ type now, opened.acknowledger = .new opened.split.id type
    context.configuration.autoAcknowledge context.configuration.autoCommitCursorInterval now

section Opening

variable {context : ReaderContext} {split : Split} {t : Transcript} {opened : ActiveSplit}
  (h : Opening context split t opened)

include h

theorem Opening.partition : opened.split.partition = split.partition := by
  rcases h.resolved with ⟨_, same⟩ | ⟨_, last, same⟩
  · rw [same]
  · rw [same]
    rfl

theorem Opening.splitId : opened.split.id = split.id := congrArg Partition.toString h.partition

theorem Opening.startPosition : opened.split.startPosition = split.startPosition := by
  rcases h.resolved with ⟨_, same⟩ | ⟨_, last, same⟩
  · rw [same]
  · rw [same]
    rfl

theorem Opening.settled : opened.split.stopCursor.needsResolving = false := by
  rcases h.resolved with ⟨known, same⟩ | ⟨_, last, same⟩
  · rw [same]
    exact known
  · rw [same]
    exact split.stopCursor.needsResolving_resolve last

theorem Opening.eq_of_settled (settled : split.stopCursor.needsResolving = false) :
    opened.split = split := by
  rcases h.resolved with ⟨_, same⟩ | ⟨needed, _⟩
  · exact same
  · exact nomatch settled.symm.trans needed

end Opening

theorem subscribe_yields {context : ReaderContext} {split : Split} {t : Transcript}
    {opened : ActiveSplit} (h : (subscribe context split).Yields t (.ok opened)) :
    ∃ now, t = [⟨.subscribe (consumerOptions context split.partition), .ok opened.consumer⟩,
        ⟨.seek opened.consumer split.seekPosition, .ok ()⟩, ⟨.time, now⟩] ∧
      opened.split = split ∧ opened.finished = split.stopCursor.isExhausted ∧
      opened.finishReported = false ∧
      ∃ type now, opened.acknowledger =
        .new split.id type context.configuration.autoAcknowledge
          context.configuration.autoCommitCursorInterval now := by
  obtain ⟨reply, t, rfl, subscribed⟩ := yields_ask.mp h
  cases reply with
  | error cause => exact nomatch (yields_done.mp subscribed).2
  | ok consumer =>
      obtain ⟨moved, t, rfl, sought⟩ := yields_ask.mp subscribed
      cases moved with
      | error cause =>
          obtain ⟨_, t, rfl, closed⟩ := yields_ask.mp sought
          exact nomatch (yields_done.mp closed).2
      | ok =>
          obtain ⟨now, t, rfl, timed⟩ := yields_ask.mp sought
          obtain ⟨rfl, same⟩ := yields_done.mp timed
          cases same
          exact ⟨now, rfl, rfl, rfl, rfl, _, now, rfl⟩

theorem openSplit_opening {context : ReaderContext} {split : Split} {t : Transcript}
    {opened : ActiveSplit} (h : (openSplit context split).Yields t (.ok opened)) :
    Opening context split t opened := by
  obtain ⟨result, first, rest, rfl, resolving, next⟩ := yields_bind.mp h
  cases result with
  | error failure => exact nomatch (yields_done.mp next).2
  | ok split' =>
  obtain ⟨result, second, rest, rfl, verifying, next⟩ := yields_bind.mp next
  cases result with
  | error failure => exact nomatch (yields_done.mp next).2
  | ok =>
  obtain ⟨now, rfl, kept, finished, unreported, made⟩ := subscribe_yields next
  subst kept
  have checks := ((verifyStart_meets context _).yields verifying).1
  rcases Split.opened_yields resolving with ⟨known, rfl, same⟩ | ⟨needed, last, rfl, same⟩
  · exact ⟨⟨second, now, checks, rfl⟩, .inl ⟨known, same⟩, finished, unreported, made⟩
  · refine ⟨⟨_ :: second, now, ?_, rfl⟩, .inr ⟨needed, last, same⟩, finished, unreported, made⟩
    exact List.forall_mem_cons.mpr ⟨⟨_, rfl⟩, checks⟩

/-- How a split is not opened. A consumer that cannot be moved is closed at once. -/
inductive Refusal (context : ReaderContext) (split : Split) : Transcript → Prop
  | early {questions : Transcript} :
      (∀ e ∈ questions, ∃ question, e.1 = Question.admin question) →
      Refusal context split questions
  | unsubscribed {questions : Transcript} {cause} :
      (∀ e ∈ questions, ∃ question, e.1 = Question.admin question) →
      Refusal context split
        (questions ++ [⟨.subscribe (consumerOptions context split.partition), .error cause⟩])
  | unmoved {questions : Transcript} {consumer position cause reply} :
      (∀ e ∈ questions, ∃ question, e.1 = Question.admin question) →
      Refusal context split
        (questions ++ [⟨.subscribe (consumerOptions context split.partition), .ok consumer⟩,
          ⟨.seek consumer position, .error cause⟩, ⟨.close consumer, reply⟩])

theorem Refusal.after {context : ReaderContext} {split : Split} {questions t : Transcript}
    (admin : ∀ e ∈ questions, ∃ question, e.1 = Question.admin question)
    (refusal : Refusal context split t) : Refusal context split (questions ++ t) := by
  cases refusal with
  | early more => exact .early (List.forall_mem_append.mpr ⟨admin, more⟩)
  | unsubscribed more =>
      rw [← List.append_assoc]
      exact .unsubscribed (List.forall_mem_append.mpr ⟨admin, more⟩)
  | unmoved more =>
      rw [← List.append_assoc]
      exact .unmoved (List.forall_mem_append.mpr ⟨admin, more⟩)

theorem opened_meets (split : Split) :
    (Query.toExchange split.opened).Meets (fun q => ∃ question, q = .admin question)
      fun result => ∀ opened, result = .ok opened → opened.partition = split.partition := by
  rw [Split.opened]
  split
  · refine ⟨⟨_, rfl⟩, fun reply => ?_⟩
    cases reply with
    | error cause => exact fun _ => nofun
    | ok last =>
        intro opened same
        cases same
        rfl
  · intro opened same
    cases same
    rfl

theorem subscribe_refusal {context : ReaderContext} {split : Split} {t : Transcript}
    {failure : Failure} (h : (subscribe context split).Yields t (.error failure)) :
    Refusal context split t := by
  obtain ⟨reply, t, rfl, subscribed⟩ := yields_ask.mp h
  cases reply with
  | error cause =>
      obtain ⟨rfl, _⟩ := yields_done.mp subscribed
      exact .unsubscribed (List.forall_mem_nil _)
  | ok consumer =>
      obtain ⟨moved, t, rfl, sought⟩ := yields_ask.mp subscribed
      cases moved with
      | error cause =>
          obtain ⟨reply, t, rfl, closed⟩ := yields_ask.mp sought
          obtain ⟨rfl, _⟩ := yields_done.mp closed
          exact .unmoved (List.forall_mem_nil _)
      | ok =>
          obtain ⟨now, t, rfl, timed⟩ := yields_ask.mp sought
          exact nomatch (yields_done.mp timed).2

theorem openSplit_refusal {context : ReaderContext} {split : Split} {t : Transcript}
    {failure : Failure} (h : (openSplit context split).Yields t (.error failure)) :
    Refusal context split t := by
  obtain ⟨result, first, rest, rfl, resolving, next⟩ := yields_bind.mp h
  obtain ⟨questions, known⟩ := (opened_meets split).yields resolving
  cases result with
  | error cause =>
      obtain ⟨rfl, _⟩ := yields_done.mp next
      rw [List.append_nil]
      exact .early questions
  | ok resolved =>
  refine Refusal.after questions ?_
  obtain ⟨result, second, rest, rfl, verifying, next⟩ := yields_bind.mp next
  have checks := ((verifyStart_meets context resolved).yields verifying).1
  cases result with
  | error cause =>
      obtain ⟨rfl, _⟩ := yields_done.mp next
      rw [List.append_nil]
      exact .early checks
  | ok =>
      have refusal := subscribe_refusal next
      refine Refusal.after checks ?_
      -- A split keeps its partition when its end is resolved.
      have same : consumerOptions context resolved.partition =
          consumerOptions context split.partition := congrArg _ (known resolved rfl)
      cases refusal with
      | early more => exact .early more
      | unsubscribed more =>
          rw [same]
          exact .unsubscribed more
      | unmoved more =>
          rw [same]
          exact .unmoved more

theorem changeSplits_refusal {context : ReaderContext} {split : Split} {t : Transcript}
    {reader : SplitReader} {failure : Failure}
    (h : ((new context).changeSplits (.addition [split])).Yields t (reader, .error failure)) :
    Refusal context split t := by
  obtain ⟨result, first, rest, rfl, openedBy, final⟩ := yields_bind.mp h
  cases result with
  | ok opened => exact nomatch (yields_done.mp final).2
  | error cause =>
      obtain ⟨rfl, _⟩ := yields_done.mp final
      rw [List.append_nil]
      exact openSplit_refusal openedBy

/-- A split whose end is known, and which goes on or starts at either end, takes no more to open
than a consumer that can be moved. -/
theorem opens_settled (context : ReaderContext) {split : Split} (consumer : ConsumerId)
    (now : Instant) (settled : split.stopCursor.needsResolving = false)
    (begun : split.isResumed = true ∨ split.startPosition = .earliest ∨
      split.startPosition = .latest) :
    ∃ opened, ((new context).changeSplits (.addition [split])).Yields
      [⟨.subscribe (consumerOptions context split.partition), .ok consumer⟩,
        ⟨.seek consumer split.seekPosition, .ok ()⟩, ⟨.time, now⟩]
      ({ new context with active := some opened }, .ok ()) := by
  have known : split.opened = .done (.ok split) := by rw [Split.opened, settled]; rfl
  have opening : openSplit context split = subscribe context split := by
    rw [openSplit, known, Query.toExchange]
    simp only [bind_eq, pure_bind]
    rw [verifyStart_eq context begun]
    rfl
  have whole : (new context).changeSplits (.addition [split]) =
      (openSplit context split).bind _ := rfl
  rw [whole, opening]
  exact ⟨_, .ask (.ask (.ask (.done _)))⟩

end SplitReader
end TopicFeed
