import Mathlib.Data.List.Induction
import TopicFeed.Proofs.Reader.Acknowledgement
import TopicFeed.Proofs.Run
/-! The hand-off in two phases. Consumed messages are bound to a checkpoint by the next snapshot and
acknowledged when that checkpoint, or a later one, completes. `Move` says all that a call can do to
an acknowledger that does not acknowledge by itself. -/
namespace TopicFeed
namespace Acknowledger

open Dialogue

/-- A call of an acknowledger, with what was asked in it and what came of it. -/
inductive Call where
  | consume (id : MessageId) (asked : Transcript) (outcome : Except Failure Unit)
  | snapshot (checkpoint : UInt64)
  | complete (checkpoint : UInt64) (asked : Transcript) (outcome : Except Failure Unit)

inductive Step : Acknowledger → Call → Acknowledger → Prop
  | consume (consumer : ConsumerId) {a a' : Acknowledger} {id asked outcome} :
      (a.afterConsume consumer id).Yields asked (a', outcome) →
      Step a (.consume id asked outcome) a'
  | snapshot {a : Acknowledger} {checkpoint} :
      Step a (.snapshot checkpoint) (a.snapshot checkpoint)
  | complete (consumer : ConsumerId) {a a' : Acknowledger} {checkpoint asked outcome} :
      (a.checkpointComplete consumer checkpoint).Yields asked (a', outcome) →
      Step a (.complete checkpoint asked outcome) a'

namespace Call

def asked : Call → Transcript
  | consume _ asked _ | complete _ asked _ => asked
  | snapshot _ => []

def consumed : Call → List MessageId
  | consume id _ _ => [id]
  | snapshot _ | complete _ _ _ => []

def snapshots : Call → List UInt64
  | snapshot checkpoint => [checkpoint]
  | consume _ _ _ | complete _ _ _ => []

def completed : Call → List UInt64
  | complete checkpoint _ _ => [checkpoint]
  | consume _ _ _ | snapshot _ => []

end Call

def asked (calls : List Call) : Transcript := calls.flatMap Call.asked

def consumed (calls : List Call) : List MessageId := calls.flatMap Call.consumed

def snapshots (calls : List Call) : List UInt64 := calls.flatMap Call.snapshots

def completed (calls : List Call) : List UInt64 := calls.flatMap Call.completed

/-- The messages consumed since the last snapshot. -/
def unbound (calls : List Call) : List MessageId :=
  calls.foldl (fun ids call =>
    match call with
    | .consume id _ _ => ids ++ [id]
    | .snapshot _ => []
    | .complete _ _ _ => ids) []

/-- A snapshot for this checkpoint or an earlier one was taken when the message was among the seen
ones. -/
def Reached (seen : List Call → List MessageId) (calls : List Call) (checkpoint : UInt64)
    (id : MessageId) : Prop :=
  ∃ before c after, calls = before ++ .snapshot c :: after ∧ c ≤ checkpoint ∧ id ∈ seen before

section Calls

variable {calls : List Call} {call : Call} {checkpoint : UInt64} {id : MessageId}
  {seen : List Call → List MessageId}

@[simp] theorem asked_concat : asked (calls ++ [call]) = asked calls ++ call.asked := by
  simp [asked]

@[simp] theorem consumed_append (later : List Call) :
    consumed (calls ++ later) = consumed calls ++ consumed later := List.flatMap_append

@[simp] theorem completed_append (later : List Call) :
    completed (calls ++ later) = completed calls ++ completed later := List.flatMap_append

@[simp] theorem snapshots_append (later : List Call) :
    snapshots (calls ++ later) = snapshots calls ++ snapshots later := List.flatMap_append

@[simp] theorem unbound_consume {asked : Transcript} {outcome : Except Failure Unit} :
    unbound (calls ++ [.consume id asked outcome]) = unbound calls ++ [id] := by
  simp [unbound]

@[simp] theorem unbound_snapshot : unbound (calls ++ [.snapshot checkpoint]) = [] := by
  simp [unbound]

@[simp] theorem unbound_complete {asked : Transcript} {outcome : Except Failure Unit} :
    unbound (calls ++ [.complete checkpoint asked outcome]) = unbound calls := by
  simp [unbound]

theorem Reached.append (reached : Reached seen calls checkpoint id) (later : List Call) :
    Reached seen (calls ++ later) checkpoint id := by
  obtain ⟨before, c, after, rfl, early, member⟩ := reached
  exact ⟨before, c, after ++ later, by simp, early, member⟩

theorem reached_concat : Reached seen (calls ++ [call]) checkpoint id ↔
    Reached seen calls checkpoint id ∨
      ∃ c, call = .snapshot c ∧ c ≤ checkpoint ∧ id ∈ seen calls := by
  constructor
  · rintro ⟨before, c, after, whole, le, member⟩
    rcases List.eq_nil_or_concat after with rfl | ⟨after, last, rfl⟩
    · obtain ⟨rfl, same⟩ := List.append_inj' whole rfl
      exact .inr ⟨c, (List.cons.inj same).1, le, member⟩
    · rw [List.concat_eq_append, ← List.cons_append, ← List.append_assoc] at whole
      obtain ⟨rfl, _⟩ := List.append_inj' whole rfl
      exact .inl ⟨before, c, after, rfl, le, member⟩
  · rintro (reached | ⟨c, rfl, le, member⟩)
    · exact reached.append [call]
    · exact ⟨calls, c, [], rfl, le, member⟩

theorem Reached.mono {checkpoint' : UInt64} (reached : Reached seen calls checkpoint id)
    (le : checkpoint ≤ checkpoint') : Reached seen calls checkpoint' id := by
  obtain ⟨before, c, after, whole, le', member⟩ := reached
  exact ⟨before, c, after, whole, UInt64.le_trans le' le, member⟩

theorem Reached.of_subset {seen' : List Call → List MessageId}
    (reached : Reached seen calls checkpoint id) (more : ∀ calls, seen calls ⊆ seen' calls) :
    Reached seen' calls checkpoint id := by
  obtain ⟨before, c, after, whole, le, member⟩ := reached
  exact ⟨before, c, after, whole, le, more before member⟩

theorem unbound_subset (calls : List Call) : unbound calls ⊆ consumed calls := by
  induction calls using List.reverseRecOn with
  | nil => exact List.nil_subset _
  | append_singleton calls call ih =>
      cases call with
      | consume id asked outcome =>
          rw [unbound_consume, consumed_append]
          exact List.append_subset.mpr
            ⟨List.subset_append_of_subset_left _ ih, List.subset_append_right ..⟩
      | snapshot c =>
          rw [unbound_snapshot]
          exact List.nil_subset _
      | complete c asked outcome =>
          rw [unbound_complete, consumed_append]
          exact List.subset_append_of_subset_left _ ih

/-- What was consumed before a message that was reached was reached with it. -/
theorem Reached.of_isLE {other : MessageId}
    (ascends : (consumed calls).Pairwise fun earlier later => compare earlier later = .lt)
    (reached : Reached consumed calls checkpoint id) (member : other ∈ consumed calls)
    (le : (compare other id).isLE = true) : Reached consumed calls checkpoint other := by
  obtain ⟨before, c, after, rfl, early, seen⟩ := reached
  rw [consumed_append] at ascends member
  rcases List.mem_append.mp member with earlier | later
  · exact ⟨before, c, after, rfl, early, earlier⟩
  · have less := (List.pairwise_append.mp ascends).2.2 id seen other later
    exact absurd less (MessageId.not_lt_of_isLE le)

/-- A consumed message is unbound still, or a snapshot has bound it. -/
theorem unbound_or_reached (member : id ∈ consumed calls) :
    id ∈ unbound calls ∨ ∃ c ∈ snapshots calls, Reached unbound calls c id := by
  -- The induction is on the last call, as a snapshot binds what was consumed before it.
  induction calls using List.reverseRecOn with
  | nil => exact nomatch member
  | append_singleton calls call ih =>
      rw [consumed_append, List.mem_append] at member
      have earlier (before : id ∈ consumed calls) : id ∈ unbound calls ∨
          ∃ c ∈ snapshots (calls ++ [call]), Reached unbound (calls ++ [call]) c id := by
        refine (ih before).imp_right ?_
        rintro ⟨c, taken, reached⟩
        rw [snapshots_append]
        exact ⟨c, List.mem_append_left _ taken, reached.append [call]⟩
      cases call with
      | consume other asked outcome =>
          rw [unbound_consume, List.mem_append]
          rcases member with before | here
          · exact (earlier before).imp_left .inl
          · exact .inl (.inr here)
      | snapshot c =>
          rcases earlier (member.resolve_right List.not_mem_nil) with loose | reached
          · refine .inr ⟨c, ?_, reached_concat.mpr (.inr ⟨c, rfl, UInt64.le_refl c, loose⟩)⟩
            rw [snapshots_append]
            exact List.mem_append_right _ List.mem_cons_self
          · exact .inr reached
      | complete c asked outcome =>
          rw [unbound_complete]
          exact earlier (member.resolve_right List.not_mem_nil)

/-- If checkpoints are taken in order, no snapshot after the next one reaches a message earlier. -/
theorem Reached.unbound (ordered : (snapshots calls).Pairwise (· ≤ ·))
    (reached : Reached consumed calls checkpoint id) : Reached unbound calls checkpoint id := by
  obtain ⟨before, c, after, rfl, early, member⟩ := reached
  rcases unbound_or_reached member with loose | ⟨c', taken, reached⟩
  · exact ⟨before, c, after, rfl, early, loose⟩
  · rw [snapshots_append] at ordered
    have le : c' ≤ c := (List.pairwise_append.mp ordered).2.2 c' taken c List.mem_cons_self
    exact (reached.append _).mono (UInt64.le_trans le early)

end Calls

/-- Messages that are bound to a checkpoint and not acknowledged. -/
def Waits (a : Acknowledger) (checkpoint : UInt64) (id : MessageId) : Prop :=
  ∃ ids, a.pending.get? checkpoint = some ids ∧ id ∈ ids

/-- What is bound to this checkpoint or an earlier one. -/
def due (a : Acknowledger) (checkpoint : UInt64) : List MessageId :=
  (a.pending.filter fun c _ => c ≤ checkpoint).values.flatten

/-- What is bound to later checkpoints. -/
def later (a : Acknowledger) (checkpoint : UInt64) : OrderedMap UInt64 (List MessageId) :=
  a.pending.filter fun c _ => checkpoint < c

/-- What a call does to an acknowledger that leaves messages to the completion of checkpoints. -/
inductive Move (a : Acknowledger) : Call → Acknowledger → Prop
  | consume {id} : Move a (.consume id [] (.ok ())) { a with inFlight := a.inFlight ++ [id] }
  | snapshot {checkpoint} : Move a (.snapshot checkpoint) (a.snapshot checkpoint)
  | complete {checkpoint asked} : Acknowledgement a.strategy (a.due checkpoint) asked [] →
      Move a (.complete checkpoint asked (.ok ())) { a with pending := a.later checkpoint }
  | failed {checkpoint asked left failure} :
      Acknowledgement a.strategy (a.due checkpoint) asked left →
      Move a (.complete checkpoint asked (.error failure))
        { a with pending := (a.later checkpoint).insert checkpoint left }

section Moves

variable {a a' : Acknowledger} {call : Call} {checkpoint c : UInt64} {id : MessageId}
  {left : List MessageId}

theorem Step.move (step : Step a call a') (deferred : a.automatic = false) : a.Move call a' := by
  cases step with
  | consume consumer h =>
      rw [afterConsume, if_pos (by rw [deferred]; rfl)] at h
      obtain ⟨rfl, same⟩ := yields_done.mp h
      cases same
      exact .consume
  | snapshot => exact .snapshot
  | complete consumer h =>
      obtain ⟨outcome, first, rest, rfl, acknowledged, final⟩ := yields_bind.mp h
      have spec := acknowledge_spec acknowledged
      cases outcome with
      | ok =>
          obtain ⟨rfl, same⟩ := yields_done.mp final
          cases same
          rw [List.append_nil]
          exact .complete spec
      | error left =>
          obtain ⟨rfl, same⟩ := yields_done.mp final
          cases same
          rw [List.append_nil]
          exact .failed spec

theorem mem_due : id ∈ a.due checkpoint ↔ ∃ c ≤ checkpoint, a.Waits c id := by
  simp only [due, List.mem_flatten, OrderedMap.mem_values, OrderedMap.get?_filter, Waits]
  constructor
  · rintro ⟨ids, ⟨c, found⟩, member⟩
    obtain ⟨le, found⟩ : c ≤ checkpoint ∧ a.pending.get? c = some ids := by simpa using found
    exact ⟨c, le, ids, found, member⟩
  · rintro ⟨c, le, ids, found, member⟩
    exact ⟨ids, ⟨c, by simpa [le] using found⟩, member⟩

theorem waits_later :
    Waits { a with pending := a.later checkpoint } c id ↔ checkpoint < c ∧ a.Waits c id := by
  simp [Waits, later, OrderedMap.get?_filter, and_assoc]

theorem waits_insert {pending : OrderedMap UInt64 (List MessageId)} :
    Waits { a with pending := pending.insert checkpoint left } c id ↔
      c = checkpoint ∧ id ∈ left ∨ c ≠ checkpoint ∧ Waits { a with pending } c id := by
  by_cases same : c = checkpoint <;> simp [Waits, OrderedMap.get?_insert, same]

theorem waits_snapshot :
    (a.snapshot checkpoint).Waits c id ↔ a.Waits c id ∨ c = checkpoint ∧ id ∈ a.inFlight := by
  rw [snapshot]
  split
  · next nothing => simp [List.isEmpty_iff.mp nothing]
  · by_cases same : c = checkpoint
    · subst same
      cases here : a.pending.get? c <;> simp [Waits, OrderedMap.get?_insert, here]
    · simp [Waits, OrderedMap.get?_insert, same]

@[simp] theorem snapshot_inFlight : (a.snapshot checkpoint).inFlight = [] := by
  rw [snapshot]
  split
  · next nothing => exact List.isEmpty_iff.mp nothing
  · rfl

theorem Move.strategy (move : a.Move call a') : a'.strategy = a.strategy := by
  cases move with
  | consume | complete | failed => rfl
  | snapshot =>
      rw [Acknowledger.snapshot]
      split <;> rfl

theorem Move.automatic (move : a.Move call a') : a'.automatic = a.automatic := by
  cases move with
  | consume | complete | failed => rfl
  | snapshot =>
      rw [Acknowledger.snapshot]
      split <;> rfl

theorem Move.acknowledgement {asked : Transcript} {outcome : Except Failure Unit}
    (move : a.Move (.complete checkpoint asked outcome) a') :
    ∃ left, Acknowledgement a.strategy (a.due checkpoint) asked left := by
  cases move with
  | complete spec | failed spec => exact ⟨_, spec⟩

end Moves
end Acknowledger
end TopicFeed
