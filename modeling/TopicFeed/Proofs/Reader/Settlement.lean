import TopicFeed.Proofs.Reader.Handoff
import TopicFeed.Proofs.Reader.Session
/-! Where consumed messages are on their way to being acknowledged. Each is in flight, waits for a
checkpoint that was reached when it had been consumed, or has been acknowledged, whatever
acknowledgements fail in between. -/
namespace TopicFeed
namespace Acknowledger

/-- Messages that are consumed and not acknowledged, whether they wait for a checkpoint or are in
flight. -/
def held (a : Acknowledger) : List MessageId := a.pending.values.flatten ++ a.inFlight

section Contents

variable (a : Acknowledger) (checkpoint : UInt64)

theorem due_later_perm : a.pending.values.flatten.Perm
    (a.due checkpoint ++ (a.later checkpoint).values.flatten) := by
  have others : a.later checkpoint = a.pending.filter fun c _ => !decide (c ≤ checkpoint) := by
    simp only [later, ← UInt64.not_le, decide_not]
  rw [others]
  exact a.pending.flatten_filter_perm fun c => c ≤ checkpoint

theorem insert_later_perm (left : List MessageId) :
    ((a.later checkpoint).insert checkpoint left).values.flatten.Perm
      ((a.later checkpoint).values.flatten ++ left) := by
  have absent : (a.later checkpoint).get? checkpoint = none := by
    simp [later, OrderedMap.get?_filter]
  have inserted := (a.later checkpoint).flatten_insert_perm checkpoint left
  rw [absent] at inserted
  exact inserted

theorem snapshot_perm : (a.snapshot checkpoint).pending.values.flatten.Perm
    (a.pending.values.flatten ++ a.inFlight) := by
  rw [snapshot]
  split
  · next nothing => rw [List.isEmpty_iff.mp nothing, List.append_nil]
  · exact a.pending.flatten_insert_perm checkpoint a.inFlight

end Contents

/-- Where the consumed messages are after some calls. A message that waits for a checkpoint later
than the one that was reached with it has been through a completion that failed. -/
structure Tally (calls : List Call) (a : Acknowledger) : Prop where
  deferred : a.automatic = false
  inFlight : a.inFlight = unbound calls
  bound : ∀ c id, a.Waits c id → Reached unbound calls c id
  settled : ∀ c id, Reached unbound calls c id →
    (asked calls).Acknowledges id ∨ ∃ c', a.Waits c' id ∧ (c' ≤ c ∨ c' ∈ completed calls)
  conserved : a.strategy = .individual →
    (consumed calls).Perm ((asked calls).acknowledged ++ a.held)

section Moves

variable {a a' : Acknowledger} {calls : List Call} {call : Call}

theorem Tally.inFlight_concat (tally : Tally calls a) (move : a.Move call a') :
    a'.inFlight = unbound (calls ++ [call]) := by
  cases move with
  | consume => rw [unbound_consume, tally.inFlight]
  | snapshot => rw [unbound_snapshot, snapshot_inFlight]
  | complete | failed => rw [unbound_complete, tally.inFlight]

theorem Tally.bound_concat (tally : Tally calls a) (move : a.Move call a') (c : UInt64)
    (id : MessageId) (waits : a'.Waits c id) : Reached unbound (calls ++ [call]) c id := by
  apply reached_concat.mpr
  cases move with
  | consume => exact .inl (tally.bound c id waits)
  | @snapshot checkpoint =>
      rcases waits_snapshot.mp waits with before | ⟨rfl, member⟩
      · exact .inl (tally.bound c id before)
      · rw [tally.inFlight] at member
        exact .inr ⟨c, rfl, UInt64.le_refl c, member⟩
  | complete => exact .inl (tally.bound c id (waits_later.mp waits).2)
  | failed acknowledgement =>
      rcases waits_insert.mp waits with ⟨rfl, member⟩ | ⟨_, later⟩
      · obtain ⟨c', le, before⟩ := mem_due.mp (acknowledgement.within member)
        exact .inl ((tally.bound c' id before).mono le)
      · exact .inl (tally.bound c id (waits_later.mp later).2)

theorem Tally.settled_concat (tally : Tally calls a) (move : a.Move call a') (c : UInt64)
    (id : MessageId) (reached : Reached unbound (calls ++ [call]) c id) :
    (asked (calls ++ [call])).Acknowledges id ∨
      ∃ c', a'.Waits c' id ∧ (c' ≤ c ∨ c' ∈ completed (calls ++ [call])) := by
  rw [asked_concat, Transcript.acknowledges_append, completed_append]
  -- A message that was reached just now waits for this checkpoint.
  rcases reached_concat.mp reached with reached | ⟨checkpoint, rfl, le, member⟩
  swap
  · cases move
    rw [← tally.inFlight] at member
    exact .inr ⟨checkpoint, waits_snapshot.mpr (.inr ⟨rfl, member⟩), .inl le⟩
  rcases tally.settled c id reached with acknowledged | ⟨c', waits, early⟩
  · exact .inl (.inl acknowledged)
  have early : c' ≤ c ∨ c' ∈ completed calls ++ completed [call] :=
    early.imp_right (List.mem_append_left _)
  cases move with
  | consume => exact .inr ⟨c', waits, early⟩
  | snapshot => exact .inr ⟨c', waits_snapshot.mpr (.inl waits), early⟩
  | @complete checkpoint asked acknowledgement =>
      by_cases due : c' ≤ checkpoint
      · have settled := acknowledgement.settles id (mem_due.mpr ⟨c', due, waits⟩)
        exact .inl (.inr (settled.resolve_right List.not_mem_nil))
      · exact .inr ⟨c', waits_later.mpr ⟨UInt64.not_le.mp due, waits⟩, early⟩
  | @failed checkpoint asked left failure acknowledgement =>
      by_cases due : c' ≤ checkpoint
      · rcases acknowledgement.settles id (mem_due.mpr ⟨c', due, waits⟩) with acknowledged | member
        · exact .inl (.inr acknowledged)
        · refine .inr ⟨checkpoint, waits_insert.mpr (.inl ⟨rfl, member⟩), .inr ?_⟩
          exact List.mem_append_right _ List.mem_cons_self
      · have later := UInt64.not_le.mp due
        refine .inr ⟨c', waits_insert.mpr (.inr ⟨?_, waits_later.mpr ⟨later, waits⟩⟩), early⟩
        exact (UInt64.ne_of_lt later).symm

/-- What a call acknowledges is no longer held. -/
theorem Move.held_perm (move : a.Move call a') (individual : a.strategy = .individual) :
    (a.held ++ call.consumed).Perm (call.asked.acknowledged ++ a'.held) := by
  cases move with
  | @consume id =>
      have same : a.held ++ [id] = a.pending.values.flatten ++ (a.inFlight ++ [id]) :=
        List.append_assoc ..
      exact .of_eq same
  | @snapshot checkpoint =>
      have bound := (a.snapshot_perm checkpoint).symm
      have same : (a.snapshot checkpoint).held =
          (a.snapshot checkpoint).pending.values.flatten := by
        rw [held, snapshot_inFlight, List.append_nil]
      rw [← same] at bound
      exact (List.Perm.of_eq (List.append_nil a.held)).trans bound
  | @complete checkpoint asked acknowledgement =>
      have whole := acknowledgement.each individual
      have parts := a.due_later_perm checkpoint
      rw [← whole, List.append_nil] at parts
      have kept := parts.append_right a.inFlight
      rw [List.append_assoc] at kept
      exact (List.Perm.of_eq (List.append_nil a.held)).trans kept
  | @failed checkpoint asked left failure acknowledgement =>
      have whole := acknowledgement.each individual
      have parts := a.due_later_perm checkpoint
      rw [← whole, List.append_assoc] at parts
      have again := List.perm_append_comm.trans (a.insert_later_perm checkpoint left).symm
      have kept := (parts.trans (again.append_left asked.acknowledged)).append_right a.inFlight
      rw [List.append_assoc] at kept
      exact (List.Perm.of_eq (List.append_nil a.held)).trans kept

theorem Tally.conserved_concat (tally : Tally calls a) (move : a.Move call a')
    (individual : a'.strategy = .individual) : (consumed (calls ++ [call])).Perm
      ((asked (calls ++ [call])).acknowledged ++ a'.held) := by
  rw [move.strategy] at individual
  have more : consumed [call] = call.consumed := List.flatMap_singleton ..
  rw [consumed_append, more, asked_concat, Transcript.acknowledged_append, List.append_assoc]
  have before := (tally.conserved individual).append_right call.consumed
  rw [List.append_assoc] at before
  exact before.trans ((move.held_perm individual).append_left _)

theorem Tally.concat (tally : Tally calls a) (move : a.Move call a') :
    Tally (calls ++ [call]) a' where
  deferred := move.automatic.trans tally.deferred
  inFlight := tally.inFlight_concat move
  bound := tally.bound_concat move
  settled := tally.settled_concat move
  conserved := tally.conserved_concat move

end Moves

theorem tally_of_run {splitId : String} {type : SubscriptionType} {commitInterval : Duration}
    {made : Instant} {calls : List Call} {a : Acknowledger}
    (run : Runs Step (.new splitId type false commitInterval made) calls a) : Tally calls a := by
  apply run.traced
  · refine ⟨rfl, rfl, ?_, ?_, fun _ => .refl _⟩
    · rintro c id ⟨ids, found, _⟩
      exact nomatch found
    · rintro c id ⟨before, c', after, whole, _⟩
      simp at whole
  · intro before call after a a' _ tally step
    exact tally.concat (step.move tally.deferred)

end Acknowledger

open Acknowledger (Reached Step Move Tally asked consumed completed snapshots unbound)

/-- An acknowledger that leaves messages to the completion of checkpoints, and the calls since it
was made. -/
structure Handoff where
  splitId : String
  type : SubscriptionType
  commitInterval : Duration
  made : Instant
  calls : List Acknowledger.Call
  current : Acknowledger
  runs : Runs Step (.new splitId type false commitInterval made) calls current

namespace Handoff

variable (h : Handoff) {before after : List Acknowledger.Call} {call : Acknowledger.Call}

theorem at_call (whole : h.calls = before ++ call :: after) :
    ∃ a a', Tally before a ∧ a.Move call a' ∧ Tally (before ++ [call]) a' := by
  have run := h.runs
  rw [whole] at run
  obtain ⟨a, a', first, step⟩ := run.step_at
  have tally := Acknowledger.tally_of_run first
  have move := step.move tally.deferred
  exact ⟨a, a', tally, move, tally.concat move⟩

/-- Messages are consumed in ascending order. -/
def Ascends : Prop :=
  (consumed h.calls).Pairwise fun earlier later => compare earlier later = .lt

/-- No acknowledgement runs ahead of its checkpoint: it names a message that was consumed before a
snapshot for this checkpoint or an earlier one, and so was all that it covers. -/
theorem acknowledges_reached {checkpoint : UInt64} {sent : Transcript}
    {outcome : Except Failure Unit} (ascends : h.Ascends)
    (whole : h.calls = before ++ .complete checkpoint sent outcome :: after) :
    ∀ e ∈ sent, (∃ id, e.1.named? = some id ∧ Reached consumed before checkpoint id) ∧
      ∀ id ∈ consumed before, e.1.Covers id → Reached consumed before checkpoint id := by
  intro e member
  obtain ⟨a, a', tally, move, _⟩ := h.at_call whole
  obtain ⟨left, acknowledgement⟩ := move.acknowledgement
  obtain ⟨named, due, names⟩ := acknowledgement.names e member
  obtain ⟨c, early, waits⟩ := Acknowledger.mem_due.mp due
  have reached : Reached consumed before checkpoint named :=
    ((tally.bound c named waits).of_subset Acknowledger.unbound_subset).mono early
  refine ⟨⟨named, names, reached⟩, fun id seen covers => ?_⟩
  rw [Ascends, whole, Acknowledger.consumed_append] at ascends
  exact reached.of_isLE (List.pairwise_append.mp ascends).1 seen (covers.isLE names)

/-- When a checkpoint has completed, all messages that were seen before its snapshot, or an earlier
one, have been acknowledged. -/
def Settles (seen : List Acknowledger.Call → List MessageId) : Prop :=
  ∀ before checkpoint sent after, h.calls = before ++ .complete checkpoint sent (.ok ()) :: after →
    ∀ id, Reached seen before checkpoint id →
      (asked (before ++ [.complete checkpoint sent (.ok ())])).Acknowledges id

theorem settles_unbound (ordered : (completed h.calls).Pairwise (· ≤ ·)) : h.Settles unbound := by
  intro before checkpoint sent after whole id reached
  obtain ⟨a, a', _, move, tally⟩ := h.at_call whole
  rcases tally.settled checkpoint id (reached.append _) with acknowledged | ⟨c, waits, early⟩
  · exact acknowledged
  cases move with
  | complete acknowledgement =>
      obtain ⟨later, _⟩ := Acknowledger.waits_later.mp waits
      have le : c ≤ checkpoint := by
        rcases early with le | again
        · exact le
        rw [Acknowledger.completed_append] at again
        rcases List.mem_append.mp again with before | here
        · rw [whole, Acknowledger.completed_append] at ordered
          exact (List.pairwise_append.mp ordered).2.2 c before checkpoint List.mem_cons_self
        · exact UInt64.le_of_eq (List.mem_singleton.mp here)
      exact absurd later (UInt64.not_lt.mpr le)

/-- Deferred acknowledgements are neither lost nor doubled. Messages are bound by the next snapshot,
so only if checkpoints are taken in order do later snapshots settle them as well. -/
theorem settlement : (h.current.strategy = .individual →
      (consumed h.calls).Perm ((asked h.calls).acknowledged ++
        (h.current.pending.values.flatten ++ h.current.inFlight))) ∧
    ((completed h.calls).Pairwise (· ≤ ·) → h.Settles unbound ∧
      ((snapshots h.calls).Pairwise (· ≤ ·) → h.Settles consumed)) := by
  refine ⟨(Acknowledger.tally_of_run h.runs).conserved, fun ordered => ?_⟩
  have settles := h.settles_unbound ordered
  refine ⟨settles, fun taken before checkpoint sent after whole id reached => ?_⟩
  rw [whole, Acknowledger.snapshots_append] at taken
  exact settles before checkpoint sent after whole id
    (reached.unbound (List.pairwise_append.mp taken).1)

end Handoff

namespace Sample

def consumes (entry : Int64) : Acknowledger.Call := .consume (message entry).id [] (.ok ())

def acknowledges (entry : Int64) (reply : Except BrokerError Unit) :
    (q : Question) × q.Reply := ⟨.acknowledge consumer (message entry).id, reply⟩

def acknowledgesUpTo (entry : Int64) (reply : Except BrokerError Unit) :
    (q : Question) × q.Reply := ⟨.acknowledgeUpTo consumer (message entry).id, reply⟩

/-- A completion that fails half-way, and a later one that makes up for it. -/
def individual : Handoff where
  splitId := "s"
  type := .shared
  commitInterval := .zero
  made := .zero
  calls := [consumes 0, consumes 1, .snapshot 1, consumes 2, .snapshot 2,
    .complete 1 [acknowledges 0 (.ok ()), acknowledges 1 (.error .interrupted)]
      (.error (.acknowledge "s" (message 1).id .interrupted)),
    .complete 2 [acknowledges 1 (.ok ()), acknowledges 2 (.ok ())] (.ok ()), consumes 3]
  current := _
  runs :=
    .cons (.consume consumer (.done _)) <| .cons (.consume consumer (.done _)) <| .cons .snapshot <|
    .cons (.consume consumer (.done _)) <| .cons .snapshot <|
    .cons (.complete consumer (.ask (.ask (.done _)))) <|
    .cons (.complete consumer (.ask (.ask (.done _)))) <|
    .cons (.consume consumer (.done _)) <| .nil _

/-- What a failed completion leaves is acknowledged with the next checkpoint. -/
def cumulative : Handoff where
  splitId := "s"
  type := .exclusive
  commitInterval := .zero
  made := .zero
  calls := [consumes 0, consumes 1, .snapshot 1, consumes 2,
    .complete 1 [acknowledgesUpTo 1 (.error .interrupted)]
      (.error (.acknowledge "s" (message 1).id .interrupted)),
    .snapshot 2, .complete 2 [acknowledgesUpTo 2 (.ok ())] (.ok ())]
  current := _
  runs :=
    .cons (.consume consumer (.done _)) <| .cons (.consume consumer (.done _)) <| .cons .snapshot <|
    .cons (.consume consumer (.done _)) <| .cons (.complete consumer (.ask (.done _))) <|
    .cons .snapshot <| .cons (.complete consumer (.ask (.done _))) <| .nil _

/-- A message is bound to a checkpoint, and then an earlier one is taken and completes. -/
def crossed : Handoff where
  splitId := "s"
  type := .shared
  commitInterval := .zero
  made := .zero
  calls := [consumes 0, .snapshot 5, .snapshot 3, .complete 3 [] (.ok ())]
  current := _
  runs := .cons (.consume consumer (.done _)) <| .cons .snapshot <| .cons .snapshot <|
    .cons (.complete consumer (.done _)) <| .nil _

end Sample

namespace Handoff

theorem acknowledges_reached_cumulative : Sample.cumulative.Ascends ∧
    Reached consumed (Sample.cumulative.calls.take 6) 2 (Sample.message 0).id := by
  have ascends : Sample.cumulative.Ascends := by
    unfold Ascends
    decide
  have whole : Sample.cumulative.calls = Sample.cumulative.calls.take 6 ++
      [.complete 2 [Sample.acknowledgesUpTo 2 (.ok ())] (.ok ())] := rfl
  have safe := Sample.cumulative.acknowledges_reached ascends whole _ List.mem_cons_self
  exact ⟨ascends, safe.2 _ List.mem_cons_self rfl⟩

theorem settlement_individual : Sample.individual.current.strategy = .individual ∧
    (completed Sample.individual.calls).Pairwise (· ≤ ·) ∧
    (snapshots Sample.individual.calls).Pairwise (· ≤ ·) ∧
    (consumed Sample.individual.calls).Perm
      ((asked Sample.individual.calls).acknowledged ++
        (Sample.individual.current.pending.values.flatten ++
          Sample.individual.current.inFlight)) ∧
    (asked (Sample.individual.calls.take 7)).Acknowledges (Sample.message 1).id := by
  have strategy : Sample.individual.current.strategy = .individual := rfl
  have ordered : (completed Sample.individual.calls).Pairwise (· ≤ ·) := by decide
  have taken : (snapshots Sample.individual.calls).Pairwise (· ≤ ·) := by decide
  obtain ⟨conserved, settles⟩ := Sample.individual.settlement
  have reached : Reached consumed (Sample.individual.calls.take 6) 2 (Sample.message 1).id :=
    ⟨Sample.individual.calls.take 2, 1, _, rfl, by decide, by decide⟩
  exact ⟨strategy, ordered, taken, conserved strategy,
    (settles ordered).2 taken _ _ _ _ rfl _ reached⟩

theorem not_settles_consumed_crossed :
    (completed Sample.crossed.calls).Pairwise (· ≤ ·) ∧ ¬Sample.crossed.Settles consumed := by
  refine ⟨by decide, fun settles => ?_⟩
  have reached : Reached consumed (Sample.crossed.calls.take 3) 3 (Sample.message 0).id :=
    ⟨Sample.crossed.calls.take 2, 3, [], rfl, by decide, by decide⟩
  obtain ⟨_, sent, _⟩ := settles _ _ _ _ rfl _ reached
  exact nomatch sent

end Handoff
end TopicFeed
