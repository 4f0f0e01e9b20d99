import TopicFeed.Proofs.Checkpoint.Faithful
import TopicFeed.Proofs.Enumerator.Flow
/-! Handing out across a restart. As long as no splits are returned, each partition is handed out
once, also when the enumerator is replaced by one that is restored from a checkpoint. -/
namespace TopicFeed

/-- The partitions that were handed out and those whose splits wait are known, and all different. -/
structure EnumeratorState.Once (out : List Partition) (s : EnumeratorState) : Prop where
  apart : (out ++ s.pending.map Split.partition).Nodup
  known : ∀ p ∈ out ++ s.pending.map Split.partition, p ∈ s.appended

/-- What waits may go, and new partitions may come to wait, as long as none comes back. -/
theorem Enumerator.Flow.once_out {e e' : Enumerator} {operation : Operation}
    {handed fresh : List Split} (flow : e.Flow operation handed fresh e')
    (kept : operation.returned = []) {out : List Partition} (once : e.state.Once out) :
    e'.state.Once (out ++ handed.map Split.partition) := by
  have apart := flow.grown.append once.apart once.known
  obtain ⟨moved, perm, part⟩ := flow.once kept
  have all : (moved.map Split.partition).Perm
      (handed.map Split.partition ++ e'.state.pending.map Split.partition) := by
    rw [← List.map_append]
    exact perm.map _
  have some : (moved.map Split.partition).Sublist
      (e.state.pending.map Split.partition ++ fresh.map Split.partition) := by
    rw [← List.map_append]
    exact part.map _
  constructor
  · rw [List.append_assoc] at apart ⊢
    exact (all.append_left out).nodup_iff.mp (apart.sublist (some.append_left out))
  · intro p member
    rw [List.append_assoc] at member
    rw [flow.grown.known]
    rcases List.mem_append.mp member with before | now
    · exact .inr (once.known p (List.mem_append_left _ before))
    · rcases List.mem_append.mp (some.subset (all.symm.subset now)) with waited | new
      · exact .inr (once.known p (List.mem_append_right _ waited))
      · exact .inl new

namespace History

def handed (h : History) : List Split := h.events.flatMap Event.handed

/-- No reader gives splits back. -/
def NoneReturned (h : History) : Prop := ∀ event ∈ h.events, event.operation.returned = []

instance (h : History) : Decidable h.NoneReturned :=
  inferInstanceAs (Decidable (∀ event ∈ h.events, event.operation.returned = []))

theorem once_out (h : History) (kept : h.NoneReturned) {out : List Partition}
    (once : h.state.Once out) :
    h.current.enumerator.state.Once (out ++ h.handed.map Split.partition) := by
  apply h.runs.traced (P := fun before c =>
    c.enumerator.state.Once (out ++ (before.flatMap Event.handed).map Split.partition))
  · rw [List.flatMap_nil, List.map_nil, List.append_nil]
    exact once
  · rintro before event after c c' whole once step
    have none : event.operation.returned = [] := kept event (by rw [whole]; simp)
    cases step with
    | perform operation readers =>
        obtain ⟨fresh, flow⟩ := (c.perform_change readers operation).flow
        rw [List.flatMap_append, List.map_append, List.flatMap_singleton, ← List.append_assoc]
        exact flow.once_out none once

/-- No partition is handed out twice, neither before a checkpoint, nor after a restore from it, nor
once before and once after. -/
theorem handed_once (first second : History) (fresh : first.state = .empty)
    (kept : first.NoneReturned) (kept' : second.NoneReturned)
    (restored : Checkpoint.decodeState
      (Checkpoint.encodeState first.current.enumerator.state) = .ok second.state) :
    ((first.handed ++ second.handed).map Split.partition).Nodup := by
  have start : first.state.Once [] := by
    rw [fresh]
    exact ⟨List.nodup_nil, List.forall_mem_nil _⟩
  have before := first.once_out kept start
  rw [← Checkpoint.eq_of_decodeState restored] at before
  have after := second.once_out kept' before
  rw [List.map_append]
  exact (List.nodup_append.mp after.apart).1

end History

namespace Sample

/-- A partition is handed out, another one waits, and a third is being discovered. -/
def interrupted : History := .play unbounded .empty <|
  (.start 1, .ofList [0]) :: List.replicate 4 (discovering 1 [0]) ++
    (.tick 1, ∅) :: List.replicate 4 (discovering 2 []) ++ [(.tick 1, ∅), discovering 3 []]

/-- What is left of it: one of the two known partitions waits. -/
def left : EnumeratorState := ⟨.ofList [(dealt 0).partition, (dealt 1).partition], [dealt 1], ∅⟩

/-- The one that waits and the third are handed out after a restore. -/
def restored : History := .play unbounded left <|
  (.start 1, .ofList [7]) :: List.replicate 4 (discovering 3 [7])

end Sample

theorem History.handed_once_interrupted :
    Sample.interrupted.state = .empty ∧ Sample.interrupted.NoneReturned ∧
      Sample.restored.NoneReturned ∧
      Checkpoint.decodeState (Checkpoint.encodeState Sample.interrupted.current.enumerator.state) =
        .ok Sample.restored.state ∧
      Sample.interrupted.handed = [Sample.dealt 0] ∧
      Sample.restored.handed = [Sample.dealt 1, Sample.dealt 2] ∧
      ((Sample.interrupted.handed ++ Sample.restored.handed).map Split.partition).Nodup := by
  have first : Sample.interrupted.NoneReturned ∧ Sample.interrupted.handed = [Sample.dealt 0] ∧
      Sample.interrupted.current.enumerator.state = Sample.left := by
    decide +kernel
  have second : Sample.restored.NoneReturned ∧
      Sample.restored.handed = [Sample.dealt 1, Sample.dealt 2] := by
    decide +kernel
  obtain ⟨kept, handed, state⟩ := first
  obtain ⟨kept', handed'⟩ := second
  have sized : Sample.left.Sized := by
    decide
  have read : Checkpoint.decodeState
      (Checkpoint.encodeState Sample.interrupted.current.enumerator.state) = .ok Sample.left := by
    rw [state]
    exact Checkpoint.decodeState_encodeState sized
  exact ⟨rfl, kept, kept', read, handed, handed', History.handed_once _ _ rfl kept kept' read⟩

end TopicFeed
