import TopicFeed.Proofs.Reader.Session
/-! Where a split ends. Over a whole session the messages handed over are the received ones up to
the first that the stop cursor does not let pass, however they are cut into batches, and nothing is
received after that one. -/
namespace TopicFeed

namespace StopCursor

/-- The messages that belong to a split, of those that arrive. -/
def upTo (cursor : StopCursor) : List Message → List Message
  | [] => []
  | m :: rest =>
    match cursor.judge m with
    | .proceed => m :: upTo cursor rest
    | .exactly => [m]
    | .terminate => []

/-- Whether the split ends at one of these messages. -/
def endsIn (cursor : StopCursor) (messages : List Message) : Bool :=
  messages.any fun m => (cursor.judge m).finishes

variable {cursor : StopCursor} {taken rest : List Message}

theorem finishes_eq_false {m : Message} :
    (cursor.judge m).finishes = false ↔ cursor.judge m = .proceed := by
  cases cursor.judge m <;> simp [Verdict.finishes]

theorem endsIn_eq_false : cursor.endsIn taken = false ↔ ∀ m ∈ taken, cursor.judge m = .proceed := by
  simp [endsIn, finishes_eq_false]

theorem endsIn_append :
    cursor.endsIn (taken ++ rest) = (cursor.endsIn taken || cursor.endsIn rest) := List.any_append

theorem upTo_append (all : ∀ m ∈ taken, cursor.judge m = .proceed) :
    cursor.upTo (taken ++ rest) = taken ++ cursor.upTo rest := by
  induction taken with
  | nil => rfl
  | cons m taken ih =>
      obtain ⟨first, others⟩ := List.forall_mem_cons.mp all
      rw [List.cons_append, upTo, first, List.cons_append, ih others]

theorem upTo_eq_self (all : ∀ m ∈ taken, cursor.judge m = .proceed) :
    cursor.upTo taken = taken := by
  have none : cursor.upTo (taken ++ []) = taken ++ cursor.upTo [] := upTo_append all
  simpa [upTo] using none

end StopCursor

/-- What a call does to a split that has not finished, when the call succeeds. -/
structure Headway (active : ActiveSplit) (call : Call) (active' : ActiveSplit) : Prop where
  splitId : active'.split.id = active.split.id
  stopCursor : active'.split.stopCursor = active.split.stopCursor
  records : call.records = active.split.stopCursor.upTo call.asked.received
  receipts : call.asked.receipts.Pairwise fun earlier _ =>
    ∀ m ∈ Transcript.messageOf earlier, active.split.stopCursor.judge m = .proceed
  finished : active'.finished = active.split.stopCursor.endsIn call.asked.received
  finishReported : active'.finishReported = active'.finished
  reports : call.finished = if active'.finished then [active.split.id] else []

theorem ActiveSplit.Advance.headway {context : ReaderContext} {active active' : ActiveSplit}
    {call : Call} (h : active.Advance context call active') (unfinished : active.finished = false)
    (unreported : active.finishReported = false) (succeeds : call.Succeeds) :
    Headway active call active' := by
  cases h with
  | idle closed => exact nomatch unfinished.symm.trans closed
  | snapshot =>
      refine ⟨rfl, rfl, rfl, .nil, unfinished, unreported.trans unfinished.symm, ?_⟩
      simp [Call.finished, unfinished]
  | complete completed =>
      have silent := Acknowledger.checkpointComplete_receipts completed
      have quiet := Transcript.received_of_receipts silent
      refine ⟨rfl, rfl, ?_, ?_, ?_, unreported.trans unfinished.symm, ?_⟩
      · simp [Call.records, Call.asked, quiet, StopCursor.upTo]
      · simp [Call.asked, silent]
      · simp [Call.asked, quiet, StopCursor.endsIn, unfinished]
      · simp [Call.finished, unfinished]
  | @batch now _ asked _ outcome _ _ batch =>
      obtain ⟨taken, rest, acknowledger, brought, all, exit⟩ := batch.exits
      have arrived : (Call.fetch (⟨.clearWake, ()⟩ :: ⟨.time, now⟩ :: asked) outcome).asked.received
        = taken ++ rest := brought
      have goesOn := StopCursor.endsIn_eq_false.mpr all
      have receipts := batch.receipts_pairwise
      cases exit with
      | paused =>
          refine ⟨by simp, by simp, ?_, receipts, ?_, unreported.trans unfinished.symm, ?_⟩
          · rw [arrived, StopCursor.upTo_append all]
            simp [Call.records, StopCursor.upTo]
          · rw [arrived, StopCursor.endsIn_append, goesOn]
            exact unfinished
          · simp [Call.finished, unfinished]
            rfl
      | refused => exact nomatch succeeds
      | unacknowledged => exact nomatch succeeds
      | @beyond m terminates =>
          rw [Split.recordAll_stopCursor] at terminates
          refine ⟨by simp [ActiveSplit.done], by simp [ActiveSplit.done], ?_, receipts, ?_, rfl, ?_⟩
          · rw [arrived, StopCursor.upTo_append all]
            simp [Call.records, StopCursor.upTo, terminates]
          · rw [arrived, StopCursor.endsIn_append]
            simp [ActiveSplit.done, StopCursor.endsIn, terminates, Verdict.finishes]
          · simp [Call.finished, ActiveSplit.done, Records.markFinished]
            rfl
      | @last m acknowledger stops =>
          rw [Split.recordAll_stopCursor] at stops
          refine ⟨by simp [ActiveSplit.done, ActiveSplit.consume],
            by simp [ActiveSplit.done, ActiveSplit.consume], ?_, receipts, ?_, rfl, ?_⟩
          · rw [arrived, StopCursor.upTo_append all]
            simp [Call.records, StopCursor.upTo, stops]
          · rw [arrived, StopCursor.endsIn_append]
            simp [ActiveSplit.done, StopCursor.endsIn, stops, Verdict.finishes]
          · simp [Call.finished, ActiveSplit.done, Records.markFinished]
            rfl

/-- What a run does to a split that has finished: it reports the finish if that is still to be
done, and no more. -/
structure Rest (active : ActiveSplit) (calls : List Call) (active' : ActiveSplit) : Prop where
  finished : active'.finished = true
  receipts : (askedIn calls).receipts = []
  records : emittedIn calls = []
  reports : calls.flatMap Call.finished =
    if active.finishReported || !calls.any Call.isFetch then [] else [active.split.id]

theorem rest_of_finished {context : ReaderContext} {active active' : ActiveSplit}
    {calls : List Call} (run : Runs (ActiveSplit.Advance context) active calls active')
    (finished : active.finished = true) : Rest active calls active' := by
  induction run with
  | nil => exact ⟨finished, rfl, rfl, by simp⟩
  | @cons active next _ call calls first _ ih =>
      cases first with
      | batch unfinished => exact nomatch finished.symm.trans unfinished
      | snapshot =>
          have later := ih finished
          exact ⟨later.finished, later.receipts, later.records, later.reports⟩
      | complete completed =>
          have later := ih finished
          have silent := Acknowledger.checkpointComplete_receipts completed
          refine ⟨later.finished, ?_, later.records, later.reports⟩
          rw [askedIn_cons, Transcript.receipts_append, later.receipts, List.append_nil]
          exact silent
      | idle =>
          have later := ih finished
          refine ⟨later.finished, later.receipts, ?_, ?_⟩
          · rw [emittedIn_cons, later.records, List.append_nil]
            cases active.finishReported <;> rfl
          · rw [List.flatMap_cons, later.reports]
            cases active.finishReported <;> simp [Call.finished, Call.isFetch] <;> rfl

/-- What a run of calls that succeed does to a split whose finish is not reported yet. -/
structure Course (active : ActiveSplit) (calls : List Call) (active' : ActiveSplit) : Prop where
  records : emittedIn calls = active.split.stopCursor.upTo (receivedIn calls)
  receipts : (askedIn calls).receipts.Pairwise fun earlier _ =>
    ∀ m ∈ Transcript.messageOf earlier, active.split.stopCursor.judge m = .proceed
  finished : active'.finished =
    (active.finished || active.split.stopCursor.endsIn (receivedIn calls))
  reports : calls.flatMap Call.finished =
    if active.finished && calls.any Call.isFetch ||
      active.split.stopCursor.endsIn (receivedIn calls) then [active.split.id] else []

theorem Rest.course {active active' : ActiveSplit} {calls : List Call}
    (rest : Rest active calls active') (finished : active.finished = true)
    (unreported : active.finishReported = false) : Course active calls active' := by
  have silent : receivedIn calls = [] := Transcript.received_of_receipts rest.receipts
  refine ⟨?_, ?_, ?_, ?_⟩
  · rw [rest.records, silent]
    rfl
  · rw [rest.receipts]
    exact .nil
  · rw [rest.finished, finished, Bool.true_or]
  · rw [rest.reports, unreported, finished, silent]
    cases calls.any Call.isFetch <;> rfl

theorem Headway.course_of_rest {active next active' : ActiveSplit} {call : Call}
    {calls : List Call} (headway : Headway active call next) (closed : next.finished = true)
    (rest : Rest next calls active') : Course active (call :: calls) active' := by
  have silent : receivedIn calls = [] := Transcript.received_of_receipts rest.receipts
  have ended := headway.finished.symm.trans closed
  have reported := headway.finishReported.trans closed
  refine ⟨?_, ?_, ?_, ?_⟩
  · rw [emittedIn_cons, rest.records, List.append_nil, receivedIn_cons, silent, List.append_nil]
    exact headway.records
  · rw [askedIn_cons, Transcript.receipts_append, rest.receipts, List.append_nil]
    exact headway.receipts
  · rw [receivedIn_cons, silent, List.append_nil, ended, Bool.or_true]
    exact rest.finished
  · rw [List.flatMap_cons, rest.reports, reported, headway.reports, closed, receivedIn_cons, silent,
      List.append_nil, ended, Bool.or_true]
    rfl

theorem Headway.course_of_course {active next active' : ActiveSplit} {call : Call}
    {calls : List Call} (headway : Headway active call next)
    (unfinished : active.finished = false) (going : next.finished = false)
    (course : Course next calls active') : Course active (call :: calls) active' := by
  have passed := headway.finished.symm.trans going
  have all := StopCursor.endsIn_eq_false.mp passed
  obtain ⟨records, receipts, finished, reports⟩ := course
  rw [headway.stopCursor] at records receipts finished reports
  refine ⟨?_, ?_, ?_, ?_⟩
  · rw [emittedIn_cons, receivedIn_cons, StopCursor.upTo_append all, headway.records,
      StopCursor.upTo_eq_self all, records]
  · rw [askedIn_cons, Transcript.receipts_append, List.pairwise_append]
    refine ⟨headway.receipts, receipts, ?_⟩
    intro earlier member _ _ m brought
    refine all m ?_
    rw [← Transcript.received_receipts]
    exact List.mem_filterMap.mpr ⟨earlier, member, brought⟩
  · rw [receivedIn_cons, StopCursor.endsIn_append, passed, finished, going, unfinished,
      Bool.false_or, Bool.false_or]
  · rw [List.flatMap_cons, headway.reports, reports, going, unfinished, receivedIn_cons,
      StopCursor.endsIn_append, passed, headway.splitId]
    simp only [Bool.false_and, Bool.false_or, Bool.false_eq_true, if_false, List.nil_append]

theorem course_of_run {context : ReaderContext} {active active' : ActiveSplit}
    {calls : List Call} (run : Runs (ActiveSplit.Advance context) active calls active')
    (unreported : active.finishReported = false)
    (succeed : ∀ call ∈ calls, call.Succeeds) : Course active calls active' := by
  induction run with
  | nil active => exact ⟨rfl, .nil, (Bool.or_false _).symm, by simp [receivedIn, askedIn,
      StopCursor.endsIn]⟩
  | @cons active next final call calls first rest ih =>
      cases unfinished : active.finished with
      | true => exact (rest_of_finished (.cons first rest) unfinished).course unfinished unreported
      | false =>
          obtain ⟨here, others⟩ := List.forall_mem_cons.mp succeed
          have headway := first.headway unfinished unreported here
          cases closed : next.finished with
          | true => exact headway.course_of_rest closed (rest_of_finished rest closed)
          | false =>
              have reported := headway.finishReported.trans closed
              exact headway.course_of_course unfinished closed (ih reported others)

/-- The end of a session is where its stop cursor says. The messages handed over are those up to the
first that ends the split. Once one has, or if there was nothing to read from the start, nothing is
received and nothing handed over; and the split is reported as finished once, if a fetch met its
end or came after it, and never otherwise. -/
theorem Session.stop_law (s : Session) (succeeds : s.Succeeds) :
    (s.stopCursor = s.split.stopCursor ∨
        ∃ last, s.stopCursor = s.split.stopCursor.resolve last) ∧
      emittedIn s.calls = s.stopCursor.upTo (receivedIn s.calls) ∧
      ((askedIn s.calls).receipts.Pairwise fun earlier _ =>
        ∀ m ∈ Transcript.messageOf earlier, s.stopCursor.judge m = .proceed) ∧
      (∀ before call after, s.calls = before ++ call :: after →
        (s.stopCursor.isExhausted || s.stopCursor.endsIn (receivedIn before)) = true →
        call.asked.receipts = [] ∧ call.records = []) ∧
      s.calls.flatMap Call.finished =
        if s.stopCursor.isExhausted && s.calls.any Call.isFetch ||
          s.stopCursor.endsIn (receivedIn s.calls) then [s.split.id] else [] := by
  have opening := s.opening_opened
  have exhausted : s.opened.finished = s.stopCursor.isExhausted := opening.finished
  obtain ⟨current, _, run⟩ := s.advances
  obtain ⟨records, receipts, _, reports⟩ := course_of_run run opening.unreported succeeds
  refine ⟨?_, records, receipts, ?_, ?_⟩
  · rcases opening.resolved with ⟨_, same⟩ | ⟨_, last, same⟩
    · exact .inl (congrArg Split.stopCursor same)
    · exact .inr ⟨last, congrArg Split.stopCursor same⟩
  · intro before call after whole closed
    rw [whole] at run
    obtain ⟨middle, earlier, later⟩ := Runs.append_iff.mp run
    have succeed : ∀ call ∈ before, call.Succeeds := fun call member =>
      succeeds call (whole ▸ List.mem_append_left _ member)
    have course := course_of_run earlier opening.unreported succeed
    rw [← exhausted] at closed
    obtain ⟨_, silent, empty, _⟩ := rest_of_finished later (course.finished.trans closed)
    rw [askedIn_cons, Transcript.receipts_append] at silent
    rw [emittedIn_cons] at empty
    exact ⟨(List.append_eq_nil_iff.mp silent).1, (List.append_eq_nil_iff.mp empty).1⟩
  · rw [← exhausted, ← opening.splitId]
    exact reports

namespace Sample

/-- Two batches and an idle one of a split that ends after its second message. -/
def bounded : Session where
  context := context
  split := split (.afterMessage (message 1).id)
  opening := opening (split (.afterMessage (message 1).id))
  opened := opened (split (.afterMessage (message 1).id))
  calls := [
    .fetch (fetching ++ takes 0 (.ok ()) ++ receives .nothing)
      (.ok (.ofSplit (split .never).id [message 0])),
    .fetch (fetching ++ takes 1 (.ok ()))
      (.ok ((Records.ofSplit (split .never).id [message 1]).markFinished (split .never).id)),
    .fetch [⟨.clearWake, ()⟩] (.ok .empty)]
  reader := _
  opens := .ask (.ask (.ask (.done _)))
  runs :=
    .cons (.fetch (.ask (.ask (.ask (.ask (.ask (.ask (.ask (.ask (.ask (.done _))))))))))) <|
    .cons (.fetch (.ask (.ask (.ask (.ask (.ask (.ask (.done _)))))))) <|
    .cons (.fetch (.ask (.done _))) <| .nil _

end Sample

theorem Session.stop_law_bounded :
    Sample.bounded.Succeeds ∧
      emittedIn Sample.bounded.calls = [Sample.message 0, Sample.message 1] ∧
      Sample.bounded.calls.flatMap Call.finished = [(Sample.split .never).id] := by
  have succeeds : Sample.bounded.Succeeds := by decide
  obtain ⟨_, records, _, _, reports⟩ := Sample.bounded.stop_law succeeds
  exact ⟨succeeds, records.trans rfl, reports.trans rfl⟩

end TopicFeed
