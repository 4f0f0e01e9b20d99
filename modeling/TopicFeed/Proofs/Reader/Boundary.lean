import Mathlib.Data.List.TakeDrop
import TopicFeed.Proofs.Reader.Resume
/-! Boundaries of a split. A stop cursor compares one thing of each message, its id or a time, with
a boundary. Ids ascend, so a boundary among them is exact. Times may be equal: a boundary that is
left out is exact all the same, and one that is taken in ends the split with the first of its
messages. -/
namespace TopicFeed

open Std

theorem Verdict.finishes_compare {α : Type} [Ord α] {boundary value : α} {inclusive : Bool} :
    (Verdict.compare boundary value inclusive).finishes = (Ord.compare value boundary).isGE := by
  unfold Verdict.compare
  cases Ord.compare value boundary with
  | lt | gt => rfl
  | eq => cases inclusive <;> rfl

theorem isLT_compare_eq (a b : UInt64) : (compare a b).isLT = decide (a < b) := by
  rw [Bool.eq_iff_iff, Ordering.isLT_iff_eq_lt, compare_eq_lt, decide_eq_true_iff]

theorem isEq_compare_eq (a b : UInt64) : (compare a b).isEq = decide (a = b) := by
  rw [Bool.eq_iff_iff, Ordering.isEq_iff_eq_eq, Std.compare_eq_iff_eq, decide_eq_true_iff]

theorem isLE_compare_eq (a b : UInt64) : (compare a b).isLE = decide (a ≤ b) := by
  rw [Bool.eq_iff_iff, isLE_compare, decide_eq_true_iff]

namespace StopCursor

/-- A message is judged by how its key compares with a boundary. -/
def Judges {α : Type} [Ord α] (cursor : StopCursor) (key : Message → α) (boundary : α)
    (inclusive : Bool) : Prop :=
  ∀ m, cursor.judge m = .compare boundary (key m) inclusive

/-- The end is at an id, and the message with this id is taken in or not. -/
inductive EndsAtId : StopCursor → MessageId → Bool → Prop
  | latest {last} : last ≠ .earliest → EndsAtId (.latest (some last)) last true
  | atMessage {id} : EndsAtId (.atMessage id) id false
  | afterMessage {id} : EndsAtId (.afterMessage id) id true

/-- The end is at a time of the messages, and those of this time are taken in or not. -/
inductive EndsAtTime : StopCursor → (Message → UInt64) → UInt64 → Bool → Prop
  | atPublishTime {time} : EndsAtTime (.atPublishTime time) Message.publishTime time false
  | afterPublishTime {time} : EndsAtTime (.afterPublishTime time) Message.publishTime time true
  | atEventTime {time} : EndsAtTime (.atEventTime time) Message.effectiveEventTime time false
  | afterEventTime {time} : EndsAtTime (.afterEventTime time) Message.effectiveEventTime time true

section Ends

variable {cursor : StopCursor} {inclusive : Bool}

theorem EndsAtId.judges {boundary : MessageId} (ends : cursor.EndsAtId boundary inclusive) :
    cursor.Judges Message.id boundary inclusive := by
  cases ends with
  | latest | atMessage | afterMessage => exact fun _ => rfl

theorem EndsAtId.unexhausted {boundary : MessageId} (ends : cursor.EndsAtId boundary inclusive) :
    cursor.isExhausted = false := by
  cases ends with
  | latest later => simpa [isExhausted] using later
  | atMessage | afterMessage => rfl

variable {time : Message → UInt64} {boundary : UInt64}
  (ends : cursor.EndsAtTime time boundary inclusive)

include ends

theorem EndsAtTime.judges : cursor.Judges time boundary inclusive := by
  cases ends with
  | atPublishTime | afterPublishTime | atEventTime | afterEventTime => exact fun _ => rfl

theorem EndsAtTime.unexhausted : cursor.isExhausted = false := by
  cases ends with
  | atPublishTime | afterPublishTime | atEventTime | afterEventTime => rfl

/-- Nothing has to be asked to know such an end. -/
theorem EndsAtTime.known : cursor.needsResolving = false := by
  cases ends with
  | atPublishTime | afterPublishTime | atEventTime | afterEventTime => rfl

end Ends

/-- A message that ends the split makes what follows it irrelevant. -/
theorem upTo_append_of_endsIn {cursor : StopCursor} {taken : List Message}
    (ends : cursor.endsIn taken = true) (rest : List Message) :
    cursor.upTo (taken ++ rest) = cursor.upTo taken := by
  induction taken with
  | nil => exact nomatch ends
  | cons m taken ih =>
      rw [List.cons_append, upTo, upTo]
      cases verdict : cursor.judge m with
      | exactly | terminate => rfl
      | proceed =>
          have later : cursor.endsIn taken = true := by
            simpa [endsIn, verdict, Verdict.finishes] using ends
          exact congrArg (m :: ·) (ih later)

section Judges

variable {α : Type} [Ord α] {cursor : StopCursor} {key : Message → α} {boundary : α}
  {inclusive : Bool} {messages : List Message}

theorem Judges.endsIn_iff (judges : cursor.Judges key boundary inclusive) :
    cursor.endsIn messages = true ↔ ∃ m ∈ messages, (compare (key m) boundary).isGE = true := by
  simp only [endsIn, List.any_eq_true, judges _, Verdict.finishes_compare]

variable [TransOrd α]

/-- Once the boundary is reached no message is before it. -/
theorem filter_isLT_of_reached {m : Message} (reached : compare (key m) boundary ≠ .lt)
    (above : ∀ later ∈ messages, (compare (key m) (key later)).isLE = true) :
    messages.filter (fun later => (compare (key later) boundary).isLT) = [] := by
  apply List.filter_eq_nil_iff.mpr
  intro later member before
  have less := TransCmp.lt_of_isLE_of_lt (above later member) (Ordering.isLT_iff_eq_lt.mp before)
  exact reached less

/-- Once the boundary is passed no message is at it. -/
theorem filter_isEq_of_passed {m : Message} (passed : compare (key m) boundary = .gt)
    (above : ∀ later ∈ messages, (compare (key m) (key later)).isLE = true) :
    messages.filter (fun later => (compare (key later) boundary).isEq) = [] := by
  apply List.filter_eq_nil_iff.mpr
  intro later member same
  have less := TransCmp.isLE_trans (above later member)
    (Ordering.isLE_of_eq_eq (Ordering.isEq_iff_eq_eq.mp same))
  rw [passed] at less
  exact nomatch less

/-- Of messages in order, those before the boundary belong to a split and, if the boundary is taken
in, the first that is at it. -/
theorem Judges.upTo_eq (judges : cursor.Judges key boundary inclusive)
    (ordered : messages.Pairwise fun earlier later =>
      (compare (key earlier) (key later)).isLE = true) :
    cursor.upTo messages = messages.filter (fun m => (compare (key m) boundary).isLT) ++
      if inclusive then (messages.filter fun m => (compare (key m) boundary).isEq).take 1
      else [] := by
  induction messages with
  | nil => cases inclusive <;> rfl
  | cons m rest ih =>
      obtain ⟨above, ordered⟩ := List.pairwise_cons.mp ordered
      rw [upTo, judges m, Verdict.compare]
      cases order : compare (key m) boundary with
      | lt => simp [order, ih ordered]
      | eq =>
          have none := filter_isLT_of_reached (by rw [order]; decide) above
          cases inclusive <;> simp [order, none]
      | gt =>
          have none := filter_isLT_of_reached (by rw [order]; decide) above
          have never := filter_isEq_of_passed order above
          simp [order, none, never]

/-- The messages up to the boundary are those before it and then those at it. -/
theorem filter_isLE_eq (ordered : messages.Pairwise fun earlier later =>
      (compare (key earlier) (key later)).isLE = true) :
    messages.filter (fun m => (compare (key m) boundary).isLE) =
      messages.filter (fun m => (compare (key m) boundary).isLT) ++
        messages.filter fun m => (compare (key m) boundary).isEq := by
  induction messages with
  | nil => rfl
  | cons m rest ih =>
      obtain ⟨above, ordered⟩ := List.pairwise_cons.mp ordered
      have later := ih ordered
      cases order : compare (key m) boundary with
      | lt => simp [order, later]
      | eq =>
          have none := filter_isLT_of_reached (by rw [order]; exact nofun) above
          rw [none, List.nil_append] at later
          simp [order, none, later]
      | gt => simp [order, later]

/-- A boundary is exact if it is left out, or if not more than one message is at it. -/
theorem Judges.upTo_eq_filter_iff (judges : cursor.Judges key boundary inclusive)
    (ordered : messages.Pairwise fun earlier later =>
      (compare (key earlier) (key later)).isLE = true) :
    cursor.upTo messages = messages.filter (fun m =>
        if inclusive then (compare (key m) boundary).isLE else (compare (key m) boundary).isLT) ↔
      (inclusive = true →
        (messages.filter fun m => (compare (key m) boundary).isEq).length ≤ 1) := by
  rw [judges.upTo_eq ordered]
  cases inclusive with
  | false => simp
  | true =>
      simp only [if_true, filter_isLE_eq ordered, List.append_cancel_left_eq,
        List.take_eq_self_iff, forall_true_left]

/-- Of messages whose keys ascend, not more than one is at the boundary. -/
theorem length_filter_isEq_le (ascends : messages.Pairwise fun earlier later =>
      compare (key earlier) (key later) = .lt) :
    (messages.filter fun m => (compare (key m) boundary).isEq).length ≤ 1 := by
  have apart := ascends.filter fun m => (compare (key m) boundary).isEq
  match found : messages.filter fun m => (compare (key m) boundary).isEq with
  | [] | [_] => simp
  | first :: second :: rest =>
      have here : ∀ m ∈ first :: second :: rest, compare (key m) boundary = .eq := by
        rw [← found]
        intro m member
        exact Ordering.isEq_iff_eq_eq.mp (List.mem_filter.mp member).2
      rw [found] at apart
      have less := (List.pairwise_cons.mp apart).1 second List.mem_cons_self
      have behind := TransCmp.lt_of_lt_of_isLE less
        (Ordering.isLE_of_eq_eq (here second (by simp)))
      exact nomatch (here first List.mem_cons_self).symm.trans behind

end Judges
end StopCursor

namespace Session

variable {s : Session} {inclusive : Bool}

/-- A boundary among ids is exact, whether or not a message is at it: what is handed over are the
received messages up to it, and the split is finished once one was received that is not before
it. -/
theorem message_boundary {boundary : MessageId} (ends : s.stopCursor.EndsAtId boundary inclusive)
    (succeeds : s.Succeeds) (ascends : s.Ascends) :
    emittedIn s.calls = (receivedIn s.calls).filter (fun m =>
        if inclusive then (compare m.id boundary).isLE else (compare m.id boundary).isLT) ∧
      (s.reader.isFinished = true ↔
        ∃ m ∈ receivedIn s.calls, (compare m.id boundary).isGE = true) := by
  constructor
  · have ordered : (receivedIn s.calls).Pairwise fun earlier later =>
        (compare earlier.id later.id).isLE = true :=
      ascends.imp fun less => by rw [less]; rfl
    rw [emittedIn_eq succeeds]
    apply (ends.judges.upTo_eq_filter_iff ordered).mpr
    exact fun _ => StopCursor.length_filter_isEq_le ascends
  · rw [isFinished_eq succeeds, ends.unexhausted, Bool.false_or]
    exact ends.judges.endsIn_iff

end Session

namespace Sample

/-- The message at the boundary is missing: the next one ends the split and is dropped. -/
def skipped : Session where
  context := context
  split := split (.afterMessage ⟨0, 1, 4⟩)
  opening := opening (split (.afterMessage ⟨0, 1, 4⟩))
  opened := opened (split (.afterMessage ⟨0, 1, 4⟩))
  calls := [
    .fetch (fetching ++ takes 0 (.ok ()) ++ receives .nothing)
      (.ok (.ofSplit (split .never).id [message 0])),
    .fetch (fetching ++ takes 1 (.ok ()) ++ receives (.message (message 2)))
      (.ok ((Records.ofSplit (split .never).id [message 1]).markFinished (split .never).id))]
  reader := _
  opens := .ask (.ask (.ask (.done _)))
  runs :=
    .cons (.fetch (.ask (.ask (.ask (.ask (.ask (.ask (.ask (.ask (.ask (.done _))))))))))) <|
    .cons (.fetch (.ask (.ask (.ask (.ask (.ask (.ask (.ask (.ask (.ask (.done _))))))))))) <|
    .nil _

end Sample

namespace Session

theorem message_boundary_skipped :
    Sample.skipped.stopCursor.EndsAtId ⟨0, 1, 4⟩ true ∧ Sample.skipped.Succeeds ∧
      Sample.skipped.Ascends ∧
      emittedIn Sample.skipped.calls = [Sample.message 0, Sample.message 1] ∧
      Sample.skipped.reader.isFinished = true := by
  have ends : Sample.skipped.stopCursor.EndsAtId ⟨0, 1, 4⟩ true := .afterMessage
  have succeeds : Sample.skipped.Succeeds := by decide
  have ascends : Sample.skipped.Ascends := by
    unfold Ascends
    decide
  obtain ⟨emitted, finished⟩ := message_boundary ends succeeds ascends
  refine ⟨ends, succeeds, ascends, emitted.trans rfl, finished.mpr ⟨Sample.message 2, ?_, rfl⟩⟩
  decide

variable {s : Session} {inclusive : Bool}

/-- A session whose end is at a time is over once it received a message that is later. -/
theorem upTo_log {log : List Message} {time : Message → UInt64} {boundary : UInt64}
    (ends : s.split.stopCursor.EndsAtTime time boundary inclusive) (succeeds : s.Succeeds)
    (received : receivedIn s.calls <+: log)
    (ended : s.reader.isFinished = true ∨ ∃ m ∈ receivedIn s.calls, boundary < time m) :
    emittedIn s.calls = s.split.stopCursor.upTo log := by
  have same : s.stopCursor = s.split.stopCursor :=
    congrArg Split.stopCursor (s.opening_opened.eq_of_settled ends.known)
  have ended : s.split.stopCursor.endsIn (receivedIn s.calls) = true := by
    rcases ended with finished | ⟨m, member, later⟩
    · rw [isFinished_eq succeeds, same, ends.unexhausted, Bool.false_or] at finished
      exact finished
    · refine ends.judges.endsIn_iff.mpr ⟨m, member, ?_⟩
      rw [compare_eq_gt.mpr later]
      rfl
  obtain ⟨rest, rfl⟩ := received
  rw [emittedIn_eq succeeds, same, StopCursor.upTo_append_of_endsIn ended]

/-- A boundary among times is exact if it is left out. One that is taken in ends the split with the
first message at it, so it is exact only if there is no other. -/
theorem time_boundary_iff {log : List Message} {time : Message → UInt64} {boundary : UInt64}
    (ends : s.split.stopCursor.EndsAtTime time boundary inclusive) (succeeds : s.Succeeds)
    (received : receivedIn s.calls <+: log)
    (ordered : log.Pairwise fun earlier later => time earlier ≤ time later)
    (ended : s.reader.isFinished = true ∨ ∃ m ∈ receivedIn s.calls, boundary < time m) :
    emittedIn s.calls = log.filter (fun m => time m < boundary) ++
        (if inclusive then (log.filter fun m => time m = boundary).take 1 else []) ∧
      (emittedIn s.calls =
          log.filter (fun m => if inclusive then time m ≤ boundary else time m < boundary) ↔
        (inclusive = true → (log.filter fun m => time m = boundary).length ≤ 1)) := by
  have ascending : log.Pairwise fun earlier later =>
      (compare (time earlier) (time later)).isLE = true :=
    ordered.imp fun le => isLE_compare.mpr le
  have parts := ends.judges.upTo_eq ascending
  have exactly := ends.judges.upTo_eq_filter_iff ascending
  simp only [isLT_compare_eq, isEq_compare_eq, isLE_compare_eq] at parts exactly
  rw [upTo_log ends succeeds received ended]
  exact ⟨parts, exactly⟩

end Session

namespace Sample

/-- Messages without and with a time of their own. -/
def events : List Message := [
  { message 0 with publishTime := 1 },
  { message 1 with publishTime := 9, eventTime := some 2 },
  { message 2 with publishTime := 3, eventTime := some 3 }]

/-- What one of these messages brings about. -/
def takesEvent (m : Message) : Transcript :=
  receives (.message m) ++ [⟨.acknowledge consumer m.id, .ok ()⟩]

def timed : Session where
  context := context
  split := split (.afterEventTime 2)
  opening := opening (split (.afterEventTime 2))
  opened := opened (split (.afterEventTime 2))
  calls := [
    .fetch (fetching ++ takesEvent events[0] ++ receives .nothing)
      (.ok (.ofSplit (split .never).id [events[0]])),
    .fetch (fetching ++ takesEvent events[1])
      (.ok ((Records.ofSplit (split .never).id [events[1]]).markFinished (split .never).id))]
  reader := _
  opens := .ask (.ask (.ask (.done _)))
  runs :=
    .cons (.fetch (.ask (.ask (.ask (.ask (.ask (.ask (.ask (.ask (.ask (.done _))))))))))) <|
    .cons (.fetch (.ask (.ask (.ask (.ask (.ask (.ask (.done _)))))))) <| .nil _

/-- Two messages of one time, and a later one. -/
def ties : List Message := [
  { message 0 with publishTime := 5 },
  { message 1 with publishTime := 5 },
  { message 2 with publishTime := 6 }]

/-- The first of two messages at the boundary is handed over and ends the split. -/
def tied : Session where
  context := context
  split := split (.afterPublishTime 5)
  opening := opening (split (.afterPublishTime 5))
  opened := opened (split (.afterPublishTime 5))
  calls := [
    .fetch (fetching ++ takesEvent ties[0])
      (.ok ((Records.ofSplit (split .never).id [ties[0]]).markFinished (split .never).id))]
  reader := _
  opens := .ask (.ask (.ask (.done _)))
  runs := .cons (.fetch (.ask (.ask (.ask (.ask (.ask (.ask (.done _)))))))) <| .nil _

end Sample

namespace Session

theorem time_boundary_iff_distinct :
    Sample.timed.split.stopCursor.EndsAtTime Message.effectiveEventTime 2 true ∧
      Sample.timed.Succeeds ∧ receivedIn Sample.timed.calls <+: Sample.events ∧
      Sample.timed.reader.isFinished = true ∧
      emittedIn Sample.timed.calls = Sample.events.filter fun m => m.effectiveEventTime ≤ 2 := by
  have ends : Sample.timed.split.stopCursor.EndsAtTime Message.effectiveEventTime 2 true :=
    .afterEventTime
  have succeeds : Sample.timed.Succeeds := by decide
  have received : receivedIn Sample.timed.calls <+: Sample.events := by decide
  have finished : Sample.timed.reader.isFinished = true := rfl
  obtain ⟨_, exactly⟩ := time_boundary_iff ends succeeds received (by decide) (.inl finished)
  exact ⟨ends, succeeds, received, finished, exactly.mpr fun _ => by decide⟩

theorem not_time_boundary_tied :
    Sample.tied.split.stopCursor = .afterPublishTime 5 ∧ Sample.tied.Succeeds ∧
      receivedIn Sample.tied.calls <+: Sample.ties ∧
      (Sample.ties.Pairwise fun earlier later => earlier.publishTime ≤ later.publishTime) ∧
      Sample.tied.reader.isFinished = true ∧
      emittedIn Sample.tied.calls ≠ Sample.ties.filter fun m => m.publishTime ≤ 5 := by
  exact ⟨rfl, by decide, by decide, by decide, rfl, by decide⟩

end Session
end TopicFeed
