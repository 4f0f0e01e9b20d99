import Mathlib.Data.List.Basic
import TopicFeed.Proofs.Reader.Loss
import TopicFeed.Proofs.Reader.Settlement
/-! Acknowledgements that are left to the completion of checkpoints. A message that is consumed is
held from then on, in flight or for a checkpoint that was named, until it is acknowledged. -/
namespace TopicFeed

open Dialogue

namespace Acknowledger

/-- The checkpoints that a call names. -/
def Call.checkpoints (call : Call) : List UInt64 := call.snapshots ++ call.completed

variable {a a' : Acknowledger} {call : Call} {calls : List Call} {id : MessageId} {c : UInt64}

/-- What is held, or consumed just now, is acknowledged or held afterwards. -/
theorem Move.settles (move : a.Move call a') (member : id ∈ a.held ∨ id ∈ call.consumed) :
    call.asked.Acknowledges id ∨ id ∈ a'.held := by
  cases move with
  | consume =>
      right
      rw [held, ← List.append_assoc]
      exact List.mem_append.mpr member
  | @snapshot checkpoint =>
      right
      have before := member.resolve_right List.not_mem_nil
      rw [held, snapshot_inFlight, List.append_nil]
      exact (a.snapshot_perm checkpoint).mem_iff.mpr before
  | @complete checkpoint asked acknowledgement =>
      rcases List.mem_append.mp (member.resolve_right List.not_mem_nil) with waits | loose
      · rcases List.mem_append.mp ((a.due_later_perm checkpoint).mem_iff.mp waits) with due | later
        · have settled := acknowledgement.settles id due
          exact .inl (settled.resolve_right List.not_mem_nil)
        · exact .inr (List.mem_append_left _ later)
      · exact .inr (List.mem_append_right _ loose)
  | @failed checkpoint asked left failure acknowledgement =>
      have kept := a.insert_later_perm checkpoint left
      rcases List.mem_append.mp (member.resolve_right List.not_mem_nil) with waits | loose
      · rcases List.mem_append.mp ((a.due_later_perm checkpoint).mem_iff.mp waits) with due | later
        · refine (acknowledgement.settles id due).imp_right fun again => ?_
          exact List.mem_append_left _ (kept.mem_iff.mpr (List.mem_append_right _ again))
        · exact .inr (List.mem_append_left _ (kept.mem_iff.mpr (List.mem_append_left _ later)))
      · exact .inr (List.mem_append_right _ loose)

/-- Messages wait only for checkpoints that were named. -/
theorem Move.keys (move : a.Move call a') (waits : a'.pending.contains c = true) :
    a.pending.contains c = true ∨ c ∈ call.checkpoints := by
  cases move with
  | consume => exact .inl waits
  | snapshot =>
      rw [Acknowledger.snapshot] at waits
      split at waits
      · exact .inl waits
      · rw [OrderedMap.contains_insert, Bool.or_eq_true, beq_iff_eq] at waits
        rcases waits with rfl | before
        · exact .inr List.mem_cons_self
        · exact .inl before
  | complete =>
      left
      rw [later, OrderedMap.contains_filter, Bool.and_eq_true] at waits
      exact waits.2
  | failed =>
      rw [OrderedMap.contains_insert, Bool.or_eq_true, beq_iff_eq] at waits
      rcases waits with rfl | before
      · exact .inr List.mem_cons_self
      · left
        rw [later, OrderedMap.contains_filter, Bool.and_eq_true] at before
        exact before.2

theorem Move.inFlight (move : a.Move call a') (none : a.inFlight = [])
    (quiet : call.consumed = []) : a'.inFlight = [] := by
  cases move with
  | consume => exact nomatch quiet
  | snapshot => exact snapshot_inFlight
  | complete | failed => exact none

theorem automatic_of_run (run : Runs Move a calls a') : a'.automatic = a.automatic := by
  induction run with
  | nil => rfl
  | cons first _ ih => exact ih.trans first.automatic

theorem settles_of_run (run : Runs Move a calls a') (member : id ∈ a.held ∨ id ∈ consumed calls) :
    (asked calls).Acknowledges id ∨ id ∈ a'.held := by
  induction run with
  | nil => exact .inr (member.resolve_right List.not_mem_nil)
  | cons first _ ih =>
      rw [consumed, List.flatMap_cons, List.mem_append, ← or_assoc] at member
      rw [asked, List.flatMap_cons, Transcript.acknowledges_append, or_assoc]
      rcases member with here | later
      · exact (first.settles here).imp_right fun held => ih (.inl held)
      · exact .inr (ih (.inr later))

theorem keys_of_run (run : Runs Move a calls a') (waits : a'.pending.contains c = true) :
    a.pending.contains c = true ∨ ∃ call ∈ calls, c ∈ call.checkpoints := by
  induction run with
  | nil => exact .inl waits
  | cons first _ ih =>
      rw [List.exists_mem_cons_iff, ← or_assoc]
      exact (ih waits).imp_left first.keys

theorem inFlight_of_run (run : Runs Move a calls a') (none : a.inFlight = [])
    (quiet : consumed calls = []) : a'.inFlight = [] := by
  induction run with
  | nil => exact none
  | cons first _ ih =>
      rw [consumed, List.flatMap_cons, List.append_eq_nil_iff] at quiet
      exact ih (first.inFlight none quiet.1) quiet.2

theorem held_of_hasPending (none : a.hasPending = false) : a.held = [] := by
  obtain ⟨inFlight, pending⟩ := Bool.or_eq_false_iff.mp none
  rw [held, OrderedMap.values]
  simp_all [OrderedMap.isEmpty]

end Acknowledger

open Acknowledger (Move)

section Active

variable {context : ReaderContext} {active active' : ActiveSplit} {call : Call}

/-- A message that is left to the completion of a checkpoint is consumed without a question. -/
theorem Acknowledger.afterConsume_deferred {a a' : Acknowledger} {consumer : ConsumerId}
    {id : MessageId} {asked : Transcript} {outcome : Except Failure Unit}
    (deferred : a.automatic = false) (h : (a.afterConsume consumer id).Yields asked (a', outcome)) :
    asked = [] ∧ outcome = .ok () ∧ a.Move (.consume id [] (.ok ())) a' := by
  have move := (Step.consume consumer h).move deferred
  cases move with
  | consume => exact ⟨rfl, rfl, .consume⟩

/-- What a batch does to an acknowledger that leaves messages to the completion of checkpoints. -/
theorem Batch.moves {configuration : Configuration} {deadline : Instant} {budget : Nat}
    {emitted : List Message} {t : Transcript} {outcome : Except Failure Records}
    (h : Batch configuration deadline budget active emitted t active' outcome)
    (deferred : active.acknowledger.automatic = false) :
    ∃ taken : List Message, Runs Move active.acknowledger
        (taken.map fun m => .consume m.id [] (.ok ())) active'.acknowledger ∧
      (∀ records, outcome = .ok records → records.messages = emitted ++ taken) ∧
      ∀ failure, outcome = .error failure →
        t.received = taken ∧ ∃ splitId cause, failure = .poll splitId cause := by
  induction h with
  | full | woken | late | quiet =>
      refine ⟨[], .nil _, ?_, fun _ => nofun⟩
      rintro _ ⟨⟩
      simp
  | beyond =>
      refine ⟨[], .nil _, ?_, fun _ => nofun⟩
      rintro _ ⟨⟩
      simp
  | refused =>
      refine ⟨[], .nil _, fun _ => nofun, ?_⟩
      rintro _ ⟨⟩
      exact ⟨rfl, _, _, rfl⟩
  | unacknowledged _ _ acked =>
      exact nomatch (Acknowledger.afterConsume_deferred deferred acked).2.1
  | @last _ active emitted now m asked acknowledger _ _ acked =>
      obtain ⟨_, _, move⟩ := Acknowledger.afterConsume_deferred deferred acked
      refine ⟨[m], .cons move (.nil _), ?_, fun _ => nofun⟩
      rintro _ ⟨⟩
      simp
  | @next _ active emitted now m asked acknowledger later active' outcome _ _ acked _ ih =>
      obtain ⟨rfl, _, move⟩ := Acknowledger.afterConsume_deferred deferred acked
      obtain ⟨taken, run, records, received⟩ := ih (move.automatic.trans deferred)
      refine ⟨m :: taken, .cons move run, ?_, ?_⟩
      · intro result same
        rw [records result same, List.append_assoc]
        rfl
      · intro failure same
        obtain ⟨rfl, poll⟩ := received failure same
        exact ⟨rfl, poll⟩

/-- The checkpoints that a call names. -/
def Call.checkpoints : Call → List UInt64
  | .snapshot checkpoint _ | .complete checkpoint _ _ => [checkpoint]
  | .fetch _ _ => []

/-- What a call does to an acknowledger that leaves messages to the completion of checkpoints. -/
theorem ActiveSplit.Advance.moves (h : active.Advance context call active')
    (deferred : active.acknowledger.automatic = false) :
    ∃ moves, Runs Move active.acknowledger moves active'.acknowledger ∧
      Acknowledger.consumed moves = call.consumed.map Message.id ∧
      Acknowledger.asked moves ⊆ call.asked ∧
      ∀ move ∈ moves, move.checkpoints ⊆ call.checkpoints := by
  cases h with
  | idle =>
      refine ⟨[], .nil _, ?_, List.nil_subset _, List.forall_mem_nil _⟩
      cases active.finishReported <;> rfl
  | snapshot =>
      refine ⟨[_], .cons .snapshot (.nil _), rfl, List.nil_subset _, ?_⟩
      exact List.forall_mem_singleton.mpr (List.Subset.refl _)
  | complete completed =>
      have move := (Acknowledger.Step.complete active.consumer completed).move deferred
      refine ⟨[_], .cons move (.nil _), rfl, ?_, ?_⟩
      · simp [Acknowledger.asked, Acknowledger.Call.asked, Call.asked]
      · exact List.forall_mem_singleton.mpr (List.Subset.refl _)
  | @batch now _ asked _ outcome _ _ batch =>
      obtain ⟨taken, run, records, received⟩ := batch.moves deferred
      have consumed : (Call.fetch (⟨.clearWake, ()⟩ :: ⟨.time, now⟩ :: asked) outcome).consumed =
          taken := by
        cases outcome with
        | ok => exact records _ rfl
        | error =>
            obtain ⟨same, _, _, rfl⟩ := received _ rfl
            exact same
      refine ⟨_, run, ?_, ?_, ?_⟩
      · rw [consumed, Acknowledger.consumed, List.flatMap_map]
        exact List.flatMap_pure_eq_map ..
      · have silent : Acknowledger.asked (taken.map fun m => .consume m.id [] (.ok ())) = [] := by
          simp [Acknowledger.asked, Acknowledger.Call.asked]
        rw [silent]
        exact List.nil_subset _
      · intro move member
        obtain ⟨m, _, rfl⟩ := List.mem_map.mp member
        exact List.nil_subset _

theorem ActiveSplit.Advance.automatic (h : active.Advance context call active')
    (deferred : active.acknowledger.automatic = false) :
    active'.acknowledger.automatic = false := by
  obtain ⟨moves, run, _⟩ := h.moves deferred
  exact (Acknowledger.automatic_of_run run).trans deferred

theorem ActiveSplit.Advance.settles (h : active.Advance context call active')
    (deferred : active.acknowledger.automatic = false) {id : MessageId}
    (member : id ∈ active.acknowledger.held ∨ id ∈ call.consumed.map Message.id) :
    call.asked.Acknowledges id ∨ id ∈ active'.acknowledger.held := by
  obtain ⟨moves, run, consumed, asked, _⟩ := h.moves deferred
  rw [← consumed] at member
  refine (Acknowledger.settles_of_run run member).imp_left ?_
  rintro ⟨e, taken, covers⟩
  obtain ⟨among, accepted⟩ := List.mem_filter.mp taken
  exact ⟨e, List.mem_filter.mpr ⟨asked among, accepted⟩, covers⟩

end Active

/-- The messages of a split wait for the completion of these checkpoints, and of no others. -/
structure ActiveSplit.Defers (used : UInt64 → Prop) (active : ActiveSplit) : Prop where
  automatic : active.acknowledger.automatic = false
  covered : ∀ c, active.acknowledger.pending.contains c = true → used c

theorem ActiveSplit.Advance.defers {context : ReaderContext} {active active' : ActiveSplit}
    {call : Call} {used : UInt64 → Prop} (h : active.Advance context call active')
    (named : ∀ c ∈ call.checkpoints, used c) (defers : active.Defers used) :
    active'.Defers used := by
  obtain ⟨moves, run, _, _, checkpoints⟩ := h.moves defers.automatic
  refine ⟨h.automatic defers.automatic, fun c waits => ?_⟩
  rcases Acknowledger.keys_of_run run waits with before | ⟨move, member, among⟩
  · exact defers.covered c before
  · exact named c (checkpoints move member among)

/-- A split that is neither read nor opened stays without messages in flight. -/
theorem ActiveSplit.Advance.inFlight {context : ReaderContext} {active active' : ActiveSplit}
    {call : Call} (h : active.Advance context call active')
    (deferred : active.acknowledger.automatic = false) (quiet : call.isFetch = false)
    (none : active.acknowledger.inFlight = []) : active'.acknowledger.inFlight = [] := by
  obtain ⟨moves, run, consumed, _⟩ := h.moves deferred
  refine Acknowledger.inFlight_of_run run none ?_
  rw [consumed]
  cases h with
  | idle | batch => exact nomatch quiet
  | snapshot | complete => rfl

end TopicFeed
