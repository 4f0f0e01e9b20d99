import TopicFeed.Proofs.Checkpoint.RoundTrip
import TopicFeed.Proofs.Reader.Delivery
import TopicFeed.Proofs.Reader.Loss
import TopicFeed.Proofs.Reader.StopLaw
/-! Going on from a checkpoint. A split that is saved stands right after the last message that was
handed over, so whoever opens it again receives what would have come next. -/
namespace TopicFeed

theorem consumedIn_eq_emittedIn {cursor : StopCursor} {calls : List Call}
    (each : ∀ call ∈ calls, Consumption cursor call) (succeed : ∀ call ∈ calls, call.Succeeds) :
    consumedIn calls = emittedIn calls := by
  induction calls with
  | nil => rfl
  | cons call rest ih =>
      obtain ⟨here, others⟩ := List.forall_mem_cons.mp each
      obtain ⟨succeeds, later⟩ := List.forall_mem_cons.mp succeed
      rw [consumedIn_cons, emittedIn_cons, here.handed succeeds, ih others later]

namespace Session

variable {s : Session} {checkpoint : UInt64} {saved : Split}

/-- A reader has finished its split once it received a message that ends it. -/
theorem isFinished_eq (succeeds : s.Succeeds) : s.reader.isFinished =
    (s.stopCursor.isExhausted || s.stopCursor.endsIn (receivedIn s.calls)) := by
  obtain ⟨current, here, run⟩ := s.advances
  have course := course_of_run run s.opening_opened.unreported succeeds
  have finished : s.reader.isFinished = current.finished := by
    rw [here]
    rfl
  rw [finished, course.finished, s.opening_opened.finished]
  rfl

theorem emittedIn_eq (succeeds : s.Succeeds) :
    emittedIn s.calls = s.stopCursor.upTo (receivedIn s.calls) := by
  obtain ⟨current, _, run⟩ := s.advances
  exact (course_of_run run s.opening_opened.unreported succeeds).records

/-- A split is saved as long as it has not finished. -/
theorem snapshot_isSome (s : Session) (checkpoint : UInt64) :
    (s.reader.snapshot checkpoint).2.isSome = !s.reader.isFinished := by
  obtain ⟨current, here, _⟩ := s.advances
  rw [here]
  cases finished : current.finished <;>
    simp [SplitReader.snapshot, SplitReader.isFinished, SplitReader.reading, finished]

theorem isFinished_of_snapshot (snapshot : (s.reader.snapshot checkpoint).2 = some saved) :
    s.reader.isFinished = false := by
  simpa [snapshot] using s.snapshot_isSome checkpoint

/-- A split is saved only before its end, and stands after all that was received. -/
theorem saved_of_succeeds (succeeds : s.Succeeds)
    (snapshot : (s.reader.snapshot checkpoint).2 = some saved) :
    s.stopCursor.isExhausted = false ∧
      (∀ m ∈ receivedIn s.calls, s.stopCursor.judge m = .proceed) ∧
      emittedIn s.calls = receivedIn s.calls ∧
      saved = s.opened.split.recordAll (receivedIn s.calls) := by
  have unfinished := isFinished_of_snapshot snapshot
  rw [isFinished_eq succeeds, Bool.or_eq_false_iff] at unfinished
  obtain ⟨unexhausted, goesOn⟩ := unfinished
  have all := StopCursor.endsIn_eq_false.mp goesOn
  have emitted := emittedIn_eq succeeds
  rw [StopCursor.upTo_eq_self all] at emitted
  obtain ⟨same, each⟩ := saved_eq snapshot
  rw [consumedIn_eq_emittedIn each succeeds, emitted] at same
  exact ⟨unexhausted, all, emitted, same⟩

/-- A reader that opens what was saved goes on after all that was handed over. -/
theorem reopens {first second : Session} (succeeds : first.Succeeds)
    (snapshot : (first.reader.snapshot checkpoint).2 = some saved) (same : second.split = saved) :
    second.opened.split = first.opened.split.recordAll (emittedIn first.calls) := by
  obtain ⟨_, _, emitted, rfl⟩ := saved_of_succeeds succeeds snapshot
  rw [emitted, ← same]
  apply second.opening_opened.eq_of_settled
  rw [same, Split.recordAll_stopCursor]
  exact first.opening_opened.settled

end Session

theorem Split.seekPosition_recordAll_concat (split : Split) (before : List Message) (m : Message) :
    (split.recordAll (before ++ [m])).seekPosition = .after m.id := by
  rw [seekPosition, recordAll_eq, List.getLast?_concat]
  rfl

/-- What follows the last received message comes right after all that was received. -/
theorem PartitionLog.findIdx_of_received {log : PartitionLog} {place : Nat} {before : List Message}
    {m : Message} (delivered : before ++ [m] <+: log.messages.drop place) :
    (log.messages.findIdx fun other => compare other.id m.id == .gt) =
      place + before.length + 1 := by
  apply log.findIdx_after
  obtain ⟨after, whole⟩ := delivered
  rw [← List.getElem?_drop, ← whole, List.append_assoc,
    List.getElem?_append_right (Nat.le_refl _), Nat.sub_self]
  rfl

/-- A seek to where a split stands leads to the place after the last received message. -/
theorem PartitionLog.land_recordAll {log : PartitionLog} {land land' : Position → Nat}
    {split : Split} {received : List Message}
    (honours : split.startPosition = .earliest → log.Honours land) (honours' : log.Honours land')
    (delivered : received <+: log.messages.drop (land split.seekPosition))
    (begun : split.startPosition = .earliest ∨ received ≠ []) :
    land' (split.recordAll received).seekPosition =
      land split.seekPosition + received.length := by
  induction received using List.reverseRecOn with
  | nil =>
      have start := begun.resolve_right (· rfl)
      have honours := honours start
      change land' split.seekPosition = land split.seekPosition
      unfold Split.seekPosition
      split
      · next id _ => exact (honours'.exclusive id).trans (honours.exclusive id).symm
      · rw [start]
        exact (honours'.inclusive .earliest).trans (honours.inclusive .earliest).symm
  | append_singleton before m _ =>
      rw [split.seekPosition_recordAll_concat, Position.after, honours'.exclusive,
        log.findIdx_of_received delivered, List.length_append]
      rfl

theorem Split.goesOn_recordAll {split : Split} {messages : List Message}
    (begun : split.startPosition = .earliest ∨ messages ≠ []) :
    (split.recordAll messages).isResumed = true ∨
      (split.recordAll messages).startPosition = .earliest := by
  rw [isResumed, recordAll_eq]
  rcases begun with earliest | some
  · exact .inr earliest
  · left
    dsimp only
    rw [List.getLast?_eq_some_getLast some]
    rfl

/-- The session reads a log, and no fetch of it fails. Where a new split begins that starts at the
end of the log is left open, as it depends on when the end was sought. -/
structure Session.Reads (s : Session) (log : PartitionLog) (land : Position → Nat) : Prop where
  succeeds : s.Succeeds
  delivered : s.DeliveredFrom log land
  honours : s.opened.split.isResumed = true ∨ s.opened.split.startPosition ≠ .latest →
    log.Honours land

/-- A reader that goes on receives what would have come next. -/
theorem Session.Reads.receivedIn_append {first second whole : Session} {log : PartitionLog}
    {land land' : Position → Nat} (before : first.Reads log land) (after : second.Reads log land')
    (uninterrupted : whole.Reads log land)
    (begun : first.opened.split.startPosition = .earliest ∨ receivedIn first.calls ≠ [])
    (reopened : second.opened.split = first.opened.split.recordAll (receivedIn first.calls))
    (opened : whole.opened.split = first.opened.split)
    (count : (receivedIn whole.calls).length =
      (receivedIn first.calls).length + (receivedIn second.calls).length) :
    receivedIn whole.calls = receivedIn first.calls ++ receivedIn second.calls := by
  have honours : first.opened.split.startPosition = .earliest → log.Honours land := by
    intro earliest
    apply before.honours
    rw [earliest]
    exact .inr (by decide)
  have honours' : log.Honours land' := by
    apply after.honours
    rw [reopened]
    refine (Split.goesOn_recordAll begun).imp_right fun earliest => ?_
    rw [earliest]
    decide
  have early := before.delivered.received
  have late := after.delivered.received
  have both := uninterrupted.delivered.received
  rw [reopened, PartitionLog.land_recordAll honours honours' early begun] at late
  rw [opened] at both
  obtain ⟨rest, whole_rest⟩ := early
  rw [← List.drop_drop, ← whole_rest, List.drop_left] at late
  obtain ⟨later, rest_later⟩ := late
  have joined : receivedIn first.calls ++ receivedIn second.calls <+:
      log.messages.drop (land first.opened.split.seekPosition) := by
    refine ⟨later, ?_⟩
    rw [List.append_assoc, rest_later, whole_rest]
  rw [← List.length_append] at count
  exact (List.prefix_of_prefix_length_le both joined (Nat.le_of_eq count)).eq_of_length count

/-- Going on from a checkpoint is as good as not having stopped. What is saved is read back as it
was. It opens with no more than a consumer that can be moved, and its end stays where it was
resolved at first. What was handed over before and what is handed over after are together what a
reader hands over that went on all the time, and both readers finish at the same message. -/
theorem Session.resume {first : Session} {log : PartitionLog} {land : Position → Nat}
    {checkpoint : UInt64} {saved : Split} (reads : first.Reads log land)
    (snapshot : (first.reader.snapshot checkpoint).2 = some saved)
    (begun : first.split.startPosition = .earliest ∨ emittedIn first.calls ≠ [])
    (sized : first.split.partition.Sized) :
    Checkpoint.decodeSplit (Checkpoint.encodeSplit saved) = .ok saved ∧
      (∀ context consumer now, ∃ opened,
        ((SplitReader.new context).changeSplits (.addition [saved])).Yields
          [⟨.subscribe (SplitReader.consumerOptions context saved.partition), .ok consumer⟩,
            ⟨.seek consumer saved.seekPosition, .ok ()⟩, ⟨.time, now⟩]
          (.reading context opened, .ok ())) ∧
      ∀ (second whole : Session) (land' : Position → Nat), second.split = saved →
        second.Reads log land' → whole.opened.split = first.opened.split → whole.Reads log land →
        (receivedIn whole.calls).length =
          (receivedIn first.calls).length + (receivedIn second.calls).length →
        second.stopCursor = first.stopCursor ∧
          emittedIn first.calls ++ emittedIn second.calls = emittedIn whole.calls ∧
          second.reader.isFinished = whole.reader.isFinished := by
  obtain ⟨_, all, emitted, rfl⟩ := saved_of_succeeds reads.succeeds snapshot
  have opening := first.opening_opened
  have settled := opening.settled
  rw [emitted, ← opening.startPosition] at begun
  refine ⟨?_, ?_, ?_⟩
  · apply Checkpoint.decodeSplit_encodeSplit
    rw [Split.recordAll_eq]
    exact opening.partition ▸ sized
  · intro context consumer now
    have goesOn := Split.goesOn_recordAll begun
    refine SplitReader.opens_settled context consumer now ?_ (goesOn.imp_right .inl)
    rw [Split.recordAll_stopCursor]
    exact settled
  intro second whole land' same again opened uninterrupted count
  have reopened := reopens reads.succeeds snapshot same
  rw [emitted] at reopened
  have cursor : second.stopCursor = first.stopCursor := by
    rw [stopCursor, reopened, Split.recordAll_stopCursor]
    rfl
  have cursor' : whole.stopCursor = first.stopCursor := congrArg Split.stopCursor opened
  have parts := reads.receivedIn_append again uninterrupted begun reopened opened count
  refine ⟨cursor, ?_, ?_⟩
  · rw [emitted, emittedIn_eq again.succeeds, emittedIn_eq uninterrupted.succeeds, cursor, cursor',
      parts, StopCursor.upTo_append all]
  · rw [isFinished_eq again.succeeds, isFinished_eq uninterrupted.succeeds, cursor, cursor', parts,
      StopCursor.endsIn_append, StopCursor.endsIn_eq_false.mpr all, Bool.false_or]

namespace Sample

def log : PartitionLog where
  messages := [message 0, message 1]
  ascends := .cons (List.forall_mem_singleton.mpr (by decide)) (List.pairwise_singleton ..)

/-- Where seeks lead in this log; times lead to its begin. -/
def lands : Position → Nat
  | .message id true => log.messages.findIdx fun m => (compare m.id id).isGE
  | .message id false => log.messages.findIdx fun m => compare m.id id == .gt
  | .publishTime _ => 0

theorem lands_honours : log.Honours lands := ⟨fun _ => rfl, fun _ => rfl⟩

/-- What is asked to open a split whose end is its last message. -/
def resolving (split : Split) : Transcript :=
  ⟨.admin (.lastMessageId split.partition.fullName), .ok (message 1).id⟩ ::
    opening (split.resolve (message 1).id)

def stopped : Session where
  context := context
  split := split (.latest none)
  opening := resolving (split (.latest none))
  opened := opened (split (.latest (some (message 1).id)))
  calls := [
    .fetch (fetching ++ takes 0 (.ok ()) ++ receives .nothing)
      (.ok (.ofSplit (split .never).id [message 0]))]
  reader := _
  opens := .ask (.ask (.ask (.ask (.done _))))
  runs := .cons (.fetch (.ask (.ask (.ask (.ask (.ask (.ask (.ask (.ask (.ask (.done _))))))))))) <|
    .nil _

def resumed : Session where
  context := context
  split := (split (.latest (some (message 1).id))).recordConsumed (message 0).id
  opening := opening ((split (.latest (some (message 1).id))).recordConsumed (message 0).id)
  opened := opened ((split (.latest (some (message 1).id))).recordConsumed (message 0).id)
  calls := [
    .fetch (fetching ++ takes 1 (.ok ()))
      (.ok ((Records.ofSplit (split .never).id [message 1]).markFinished (split .never).id))]
  reader := _
  opens := .ask (.ask (.ask (.done _)))
  runs := .cons (.fetch (.ask (.ask (.ask (.ask (.ask (.ask (.done _)))))))) <| .nil _

def uninterrupted : Session where
  context := context
  split := split (.latest none)
  opening := resolving (split (.latest none))
  opened := opened (split (.latest (some (message 1).id)))
  calls := [
    .fetch (fetching ++ takes 0 (.ok ()) ++ takes 1 (.ok ()))
      (.ok ((Records.ofSplit (split .never).id [message 0, message 1]).markFinished
        (split .never).id))]
  reader := _
  opens := .ask (.ask (.ask (.ask (.done _))))
  runs := .cons (.fetch (.ask (.ask (.ask (.ask (.ask (.ask (.ask (.ask (.ask (.ask
    (.done _)))))))))))) <| .nil _

end Sample

theorem Session.resume_sample :
    Checkpoint.decodeSplit (Checkpoint.encodeSplit Sample.resumed.split) =
      .ok Sample.resumed.split ∧
      emittedIn Sample.stopped.calls ++ emittedIn Sample.resumed.calls =
        emittedIn Sample.uninterrupted.calls ∧
      Sample.resumed.reader.isFinished = Sample.uninterrupted.reader.isFinished := by
  have stopped : Sample.stopped.Reads Sample.log Sample.lands :=
    ⟨by decide, by decide, fun _ => Sample.lands_honours⟩
  have resumed : Sample.resumed.Reads Sample.log Sample.lands :=
    ⟨by decide, by decide, fun _ => Sample.lands_honours⟩
  have uninterrupted : Sample.uninterrupted.Reads Sample.log Sample.lands :=
    ⟨by decide, by decide, fun _ => Sample.lands_honours⟩
  have snapshot : (Sample.stopped.reader.snapshot 1).2 = some Sample.resumed.split := rfl
  obtain ⟨decoded, _, continues⟩ := resume stopped snapshot (.inl rfl) ⟨by decide, by decide⟩
  obtain ⟨_, records, finished⟩ :=
    continues Sample.resumed Sample.uninterrupted Sample.lands rfl resumed rfl uninterrupted rfl
  exact ⟨decoded, records, finished⟩

end TopicFeed
