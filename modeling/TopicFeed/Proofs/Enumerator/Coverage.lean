import TopicFeed.Proofs.Enumerator.Restore
import TopicFeed.Proofs.Enumerator.Shares
/-! Whether the known partitions share the key space out. They do as long as every discovery made
the same ranges of it; a layout that follows the parallelism may not. -/
namespace TopicFeed

open KeyRange

/-- One range tells which of the partitions made of a physical partition it belongs to. -/
theorem KeyLayout.Complete.eq {layout : KeyLayout} {parallelisms : List UInt32}
    {there : Partition → Prop} {p q : Partition} (here : layout.Complete parallelisms there p)
    (other : layout.Complete parallelisms there q) (topics : p.topic = q.topic) (ids : p.id = q.id)
    {r : KeyRange} (within : r ∈ p.ranges) (again : r ∈ q.ranges) : p = q := by
  obtain ⟨_, _, n, _, member, _⟩ := here
  obtain ⟨_, _, m, _, found, _⟩ := other
  refine Partition.eq_of_sharing member found (fun join => ?_) topics ids within again
  refine ranges_eq ?_ n m
  rintro rfl
  exact nomatch join

namespace EnumeratorState

/-- The ranges of the known partitions that are made of one physical partition. -/
def rangesOf (s : EnumeratorState) (topic : String) (id : Int32) : List KeyRange :=
  (s.appended.toList.filter fun p => p.topic = topic ∧ p.id = id).flatMap Partition.ranges

variable {s : EnumeratorState} {topic : String} {id : Int32} {r : KeyRange}

theorem mem_rangesOf : r ∈ s.rangesOf topic id ↔
    ∃ p ∈ s.appended, p.topic = topic ∧ p.id = id ∧ r ∈ p.ranges := by
  rw [rangesOf, List.mem_flatMap]
  constructor
  · rintro ⟨p, selected, within⟩
    obtain ⟨known, same⟩ := List.mem_filter.mp selected
    obtain ⟨topics, ids⟩ := of_decide_eq_true same
    exact ⟨p, known, topics, ids, within⟩
  · rintro ⟨p, known, topics, ids, within⟩
    exact ⟨p, List.mem_filter.mpr ⟨known, decide_eq_true ⟨topics, ids⟩⟩, within⟩

section Complete

variable {layout : KeyLayout} {parallelisms : List UInt32}
  (complete : ∀ p ∈ s.appended, layout.Complete parallelisms (· ∈ s.appended) p)

include complete

theorem rangesOf_nodup (topic : String) (id : Int32) : (s.rangesOf topic id).Nodup := by
  refine List.nodup_flatMap.mpr ⟨fun p selected => ?_, ?_⟩
  · obtain ⟨_, _, _, _, shares, _⟩ := complete p (List.mem_of_mem_filter selected)
    exact (Partition.ranges_of_sharing shares).1
  · have ascending := s.appended.ascending.filter fun p => p.topic = topic ∧ p.id = id
    refine ascending.imp_of_mem fun {p q} here there less r within again => ?_
    obtain ⟨known, same⟩ := List.mem_filter.mp here
    obtain ⟨known', same'⟩ := List.mem_filter.mp there
    obtain ⟨topics, ids⟩ := of_decide_eq_true same
    obtain ⟨topics', ids'⟩ := of_decide_eq_true same'
    have equal : p = q := (complete p known).eq (complete q known') (topics.trans topics'.symm)
      (ids.trans ids'.symm) within again
    rw [equal, Std.compare_self] at less
    exact nomatch less

theorem mem_ranges_of_rangesOf (member : r ∈ s.rangesOf topic id) :
    ∃ n ∈ parallelisms, r ∈ layout.ranges n := by
  obtain ⟨p, known, _, _, within⟩ := mem_rangesOf.mp member
  obtain ⟨_, _, n, listed, shares, _⟩ := complete p known
  exact ⟨n, listed, (Partition.ranges_of_sharing shares).2 within⟩

/-- The ranges that the layout had when a partition was discovered are all there. -/
theorem ranges_subset_rangesOf {p : Partition} (known : p ∈ s.appended) :
    ∃ n ∈ parallelisms, layout.ranges n ⊆ s.rangesOf p.topic p.id := by
  obtain ⟨topic, id, n, listed, shares, all⟩ := complete p known
  refine ⟨n, listed, fun r here => mem_rangesOf.mpr ?_⟩
  obtain ⟨q, other, within⟩ := Partition.exists_sharing here topic id layout.mode
  refine ⟨q, all q other, ?_, ?_, within⟩
  · rw [Partition.topic_of_sharing other, Partition.topic_of_sharing shares]
  · rw [Partition.id_of_sharing other, Partition.id_of_sharing shares]

end Complete
end EnumeratorState

namespace History

/-- The parallelisms that discoveries were to begin with. -/
def parallelisms (h : History) : List UInt32 :=
  h.events.filterMap fun event => event.operation.parallelism?

theorem completes (h : History) (fresh : h.state = .empty) :
    h.current.Completes h.options.layout h.parallelisms := by
  refine h.runs.traced (P := fun _ c => c.Completes h.options.layout h.parallelisms) ?_ ?_
  · rw [fresh]
    refine ⟨?_, nofun, List.forall_mem_nil _⟩
    rw [Coordinator.ofState, Enumerator.ofState]
    dsimp only
    split <;> rfl
  · rintro before event after c c' whole completes step
    have among : event ∈ h.events := by
      rw [whole]
      exact List.mem_append_right _ List.mem_cons_self
    cases step with
    | perform operation readers =>
        exact completes.perform readers fun n begins =>
          List.mem_filterMap.mpr ⟨_, among, begins⟩

/-- From the empty state on, the known partitions made of one physical partition share the key space
out exactly if they are those of one parallelism. They always do where the layout does not follow
the parallelism. -/
theorem tiles_iff (h : History) (fresh : h.state = .empty) (made : h.options.layout.Made)
    {p : Partition} (known : p ∈ h.current.enumerator.state.appended) :
    (Tiles (h.current.enumerator.state.rangesOf p.topic p.id) ↔ ∃ n ∈ h.parallelisms,
      h.current.enumerator.state.rangesOf p.topic p.id ⊆ h.options.layout.ranges n) ∧
    (h.options.layout ≠ .even none →
      Tiles (h.current.enumerator.state.rangesOf p.topic p.id)) := by
  have complete := (h.completes fresh).known
  obtain ⟨n, listed, part⟩ := EnumeratorState.ranges_subset_rangesOf complete known
  have tiles_of (m : UInt32)
      (within : h.current.enumerator.state.rangesOf p.topic p.id ⊆ h.options.layout.ranges m) :
      Tiles (h.current.enumerator.state.rangesOf p.topic p.id) :=
    (made.tiles m).of_between (made.tiles n)
      (EnumeratorState.rangesOf_nodup complete p.topic p.id) part within
  constructor
  · constructor
    · exact fun tiles => ⟨n, listed, tiles.subset_of_subset (made.tiles n) part⟩
    · rintro ⟨m, _, within⟩
      exact tiles_of m within
  · intro settled
    refine tiles_of n fun r member => ?_
    obtain ⟨m, _, here⟩ := EnumeratorState.mem_ranges_of_rangesOf complete member
    rw [KeyLayout.ranges_eq settled n m]
    exact here

end History

namespace Sample

/-- A source of a topic of one partition, whose key ranges follow the parallelism. -/
def ranged : EnumeratorOptions := { unbounded with layout := .even none }

/-- The partition is discovered twice. The parallelism has not changed. -/
def steady : History := .play ranged .empty <|
  (.start 2, .ofList [0]) :: List.replicate 5 (discovering 1 [0]) ++
    (.tick 2, .ofList [0]) :: List.replicate 3 (discovering 1 [0])

/-- The parallelism changes between two discoveries of one partition. -/
def rescaled : History := .play ranged .empty <|
  (.start 1, .ofList [0]) :: List.replicate 4 (discovering 1 [0]) ++
    (.tick 2, .ofList [0]) :: List.replicate 5 (discovering 1 [0])

end Sample

namespace History

theorem tiles_iff_steady : Sample.steady.options.layout.Made ∧
    Sample.steady.current.enumerator.state.rangesOf "persistent://public/default/t" 0 =
      Sample.steady.options.layout.ranges 2 ∧
    Tiles (Sample.steady.current.enumerator.state.rangesOf "persistent://public/default/t" 0) := by
  have same : Sample.steady.current.enumerator.state.rangesOf "persistent://public/default/t" 0 =
      Sample.steady.options.layout.ranges 2 := by
    decide +kernel
  have known : (⟨"persistent://public/default/t", 0, [⟨0, 32768, by decide, by decide⟩], .split⟩ :
      Partition) ∈ Sample.steady.current.enumerator.state.appended.toList := by
    decide +kernel
  refine ⟨.byParallelism, same, ?_⟩
  exact (Sample.steady.tiles_iff rfl .byParallelism known).1.mpr
    ⟨2, List.mem_cons_self, same ▸ List.Subset.refl _⟩

theorem not_tiles_rescaled : Sample.rescaled.state = .empty ∧
    Sample.rescaled.options.layout.Made ∧
    (Sample.dealt 0).partition ∈ Sample.rescaled.current.enumerator.state.appended.toList ∧
    ¬Tiles
      (Sample.rescaled.current.enumerator.state.rangesOf "persistent://public/default/t" 0) := by
  have ranges :
      Sample.rescaled.current.enumerator.state.rangesOf "persistent://public/default/t" 0 =
        [⟨0, 32768, by decide, by decide⟩, .full, ⟨32768, 65536, by decide, by decide⟩] := by
    decide +kernel
  refine ⟨rfl, .byParallelism, by decide +kernel, fun tiles => ?_⟩
  rw [ranges] at tiles
  have apart := List.rel_of_pairwise_cons tiles.apart List.mem_cons_self
  exact apart 0 (by decide) (by decide)

end History
end TopicFeed
