import Mathlib.Data.List.Perm.Subperm
import TopicFeed.Proofs.Enumerator.Accounting
/-! Where splits come from. What waits after a turn, and what is handed out in it, waited before,
was returned, or belongs to a partition that becomes known in this turn. -/
namespace TopicFeed

/-- The splits that a caller returns. -/
def Operation.returned : Operation → List Split
  | .addSplitsBack splits _ => splits
  | _ => []

namespace EnumeratorState

variable {s t : EnumeratorState}

/-- A state knows the partitions of some splits beyond those that another knows. -/
structure Grown (s : EnumeratorState) (fresh : List Split) (t : EnumeratorState) : Prop where
  once : (fresh.map Split.partition).Nodup
  unknown : ∀ split ∈ fresh, split.partition ∉ s.appended
  known : ∀ p, p ∈ t.appended ↔ p ∈ fresh.map Split.partition ∨ p ∈ s.appended

namespace Grown

theorem of_appended (same : t.appended = s.appended) : s.Grown [] t := by
  refine ⟨List.nodup_nil, List.forall_mem_nil _, fun p => ?_⟩
  rw [same]
  simp

theorem congr {fresh : List Split} (grown : s.Grown fresh t) {u : EnumeratorState}
    (same : u.appended = t.appended) : s.Grown fresh u :=
  ⟨grown.once, grown.unknown, fun p => by rw [same, grown.known]⟩

theorem eq_nil {fresh : List Split} (grown : s.Grown fresh t) (same : t.appended = s.appended) :
    fresh = [] := by
  refine List.eq_nil_iff_forall_not_mem.mpr fun split member => ?_
  have known := (grown.known split.partition).mpr (.inl (List.mem_map_of_mem member))
  rw [same] at known
  exact grown.unknown split member known

/-- Partitions that are known stay apart from those of the new splits. -/
theorem append {fresh : List Split} (grown : s.Grown fresh t) {partitions : List Partition}
    (once : partitions.Nodup) (known : ∀ p ∈ partitions, p ∈ s.appended) :
    (partitions ++ fresh.map Split.partition).Nodup := by
  refine once.append grown.once ?_
  intro p old new
  obtain ⟨split, member, rfl⟩ := List.mem_map.mp new
  exact grown.unknown split member (known _ old)

end Grown

theorem add_of_known {split : Split} (known : split.partition ∈ s.appended) : s.add split = s :=
  if_pos (OrderedSet.contains_iff.mpr known)

theorem add_of_unknown {split : Split} (unknown : split.partition ∉ s.appended) :
    s.add split = { s with
      appended := s.appended.insert split.partition
      pending := s.pending ++ [split] } :=
  if_neg (mt OrderedSet.contains_iff.mp unknown)

/-- Of the splits that are added, those of new partitions join the ones that wait. -/
theorem foldl_add (s : EnumeratorState) (splits : List Split) :
    ∃ fresh, s.Grown fresh (splits.foldl add s) ∧
      (splits.foldl add s).pending = s.pending ++ fresh ∧
      (splits.foldl add s).finished = s.finished := by
  induction splits generalizing s with
  | nil => exact ⟨[], .of_appended rfl, (List.append_nil _).symm, rfl⟩
  | cons split rest ih =>
      rw [List.foldl_cons]
      by_cases known : split.partition ∈ s.appended
      · rw [add_of_known known]
        exact ih s
      obtain ⟨fresh, grown, pending, finished⟩ := ih (s.add split)
      rw [add_of_unknown known] at grown pending finished ⊢
      refine ⟨split :: fresh, ⟨?_, ?_, ?_⟩, ?_, finished⟩
      · rw [List.map_cons]
        refine List.nodup_cons.mpr ⟨?_, grown.once⟩
        intro again
        obtain ⟨later, member, same⟩ := List.mem_map.mp again
        exact grown.unknown later member (OrderedSet.mem_insert.mpr (.inl same))
      · refine List.forall_mem_cons.mpr ⟨known, ?_⟩
        intro later member old
        exact grown.unknown later member (OrderedSet.mem_insert.mpr (.inr old))
      · intro p
        rw [grown.known, OrderedSet.mem_insert, List.map_cons, List.mem_cons, or_left_comm,
          or_assoc]
      · rw [pending, List.append_assoc, List.singleton_append]

end EnumeratorState

namespace Enumerator

variable {e e' : Enumerator} {operation : Operation} {readers : Readers}

/-- Where splits go in a turn that hands some out, and makes the partitions of others known. -/
structure Flow (e : Enumerator) (operation : Operation) (handed fresh : List Split)
    (e' : Enumerator) : Prop where
  grown : e.state.Grown fresh e'.state
  finished : ∀ id ∈ e.state.finished, id ∈ e'.state.finished
  queued : ∀ split ∈ fresh, split ∈ handed ++ e'.state.pending
  leaves : ∀ split ∈ handed, split ∈ e.state.pending ++ fresh
  waits : ∀ split ∈ e'.state.pending, split ∈ e.state.pending ++ fresh ∨
    split ∈ operation.returned ∧ split.id ∉ e.state.finished
  /-- Nothing comes twice, unless it is returned. -/
  once : operation.returned = [] → (handed ++ e'.state.pending).Subperm (e.state.pending ++ fresh)

namespace Flow

theorem of_subperm {handed fresh : List Split} (grown : e.state.Grown fresh e'.state)
    (finished : ∀ id ∈ e.state.finished, id ∈ e'.state.finished)
    (queued : ∀ split ∈ fresh, split ∈ handed ++ e'.state.pending)
    (once : (handed ++ e'.state.pending).Subperm (e.state.pending ++ fresh)) :
    e.Flow operation handed fresh e' where
  grown := grown
  finished := finished
  queued := queued
  leaves := fun _ member => once.subset (List.mem_append_left _ member)
  waits := fun _ member => .inl (once.subset (List.mem_append_right _ member))
  once := fun _ => once

theorem of_state (same : e'.state = e.state) : e.Flow operation [] [] e' := by
  apply of_subperm
  · exact .of_appended (by rw [same])
  · rw [same]
    exact fun _ member => member
  · exact List.forall_mem_nil _
  · rw [same, List.nil_append, List.append_nil]

theorem congr {handed fresh : List Split} (flow : e.Flow operation handed fresh e')
    {last : Enumerator} (same : last.state = e'.state) : e.Flow operation handed fresh last where
  grown := same ▸ flow.grown
  finished := same ▸ flow.finished
  queued := same ▸ flow.queued
  leaves := flow.leaves
  waits := same ▸ flow.waits
  once := same ▸ flow.once

/-- Whatever joins the ones that wait may be handed out with them. -/
theorem of_handout {middle : Enumerator} {handed fresh : List Split}
    (out : middle.Handout handed e') (grown : e.state.Grown fresh middle.state)
    (pending : middle.state.pending = e.state.pending ++ fresh)
    (finished : middle.state.finished = e.state.finished) :
    e.Flow operation handed fresh e' := by
  have whole : (handed ++ e'.state.pending).Perm (e.state.pending ++ fresh) := by
    rw [← pending]
    cases out with
    | none state _ => rw [state, List.nil_append]
    | all state _ all =>
        rw [state, List.append_nil]
        exact all
  apply of_subperm (grown.congr out.appended)
  · rw [out.finished, finished]
    exact fun _ member => member
  · exact fun split member => whole.symm.subset (List.mem_append_right _ member)
  · exact whole.subperm

/-- Of the splits that are returned, those that have not finished wait. -/
theorem foldl_takeBack (e : Enumerator) (splits : List Split) :
    (splits.foldl takeBack e).state.finished = e.state.finished ∧
      ∀ split ∈ (splits.foldl takeBack e).state.pending, split ∈ e.state.pending ∨
        split ∈ splits ∧ split.id ∉ e.state.finished := by
  induction splits generalizing e with
  | nil => exact ⟨rfl, fun _ member => .inl member⟩
  | cons back rest ih =>
      obtain ⟨finished, waits⟩ := ih (e.takeBack back)
      rw [takeBack_finished] at finished waits
      refine ⟨finished, ?_⟩
      intro split member
      rcases waits split member with before | ⟨later, unfinished⟩
      · rw [takeBack_pending] at before
        split at before
        · exact .inl before
        · next gone =>
          rcases List.mem_append.mp before with old | new
          · exact .inl old
          · cases List.mem_singleton.mp new
            exact .inr ⟨List.mem_cons_self, fun ended => gone (.inl ended)⟩
      · exact .inr ⟨List.mem_cons_of_mem _ later, unfinished⟩

end Flow

/-- Each turn is a flow of splits. -/
theorem Change.flow {directives : List Directive}
    (change : e.Change readers operation directives e') :
    ∃ fresh, e.Flow operation (handedOut directives) fresh e' := by
  cases change with
  | idle | started | closed => exact ⟨[], .of_state rfl⟩
  | @readerAdded reader =>
      have out := assignPending_handout { e with signalled := e.signalled.erase reader } readers
      exact ⟨[], .of_handout out (.of_appended rfl) (List.append_nil _).symm rfl⟩
  | requested =>
      have out := assignPending_handout e readers
      exact ⟨[], .of_handout out (.of_appended rfl) (List.append_nil _).symm rfl⟩
  | @takenBack splits reader =>
      obtain ⟨finished, waits⟩ :=
        Flow.foldl_takeBack { e with signalled := e.signalled.erase reader } splits
      refine ⟨[], .of_appended (appended_foldl_takeBack _ splits), ?_, List.forall_mem_nil _,
        List.forall_mem_nil _, ?_, ?_⟩
      · rw [finished]
        exact fun _ member => member
      · intro split member
        rw [List.append_nil]
        exact waits split member
      · intro none
        cases (show splits = [] from none)
        rw [List.append_nil]
        exact .refl _
  | @finished ids _ ended =>
      rw [finishSplits_eq ended]
      refine ⟨[], .of_subperm (.of_appended rfl) ?_ (List.forall_mem_nil _) ?_⟩
      · exact fun id member => OrderedSet.mem_foldl_insert.mpr (.inr member)
      · rw [List.append_nil]
        exact List.filter_sublist.subperm
  | abandoned ended =>
      obtain ⟨state, _, told⟩ := conclude_finish ended
      rw [told]
      exact ⟨[], .of_state state⟩
  | @appended _ _ _ splits _ _ _ _ ended =>
      obtain ⟨state, _, told⟩ := conclude_finish ended
      have out := assignPending_handout
        { e with state := splits.foldl EnumeratorState.add e.state } readers
      obtain ⟨fresh, grown, pending, finished⟩ := e.state.foldl_add splits
      rw [told]
      exact ⟨fresh, (Flow.of_handout out grown pending finished).congr state⟩

end Enumerator
end TopicFeed
