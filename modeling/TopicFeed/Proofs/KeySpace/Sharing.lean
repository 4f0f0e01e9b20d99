import Mathlib.Algebra.Group.Nat.Defs
import Mathlib.Data.List.Permutation
import TopicFeed.Broker
import TopicFeed.Proofs.Collection
import TopicFeed.Proofs.KeySpace.Tiling
/-! How a topic is shared out. The partitions made of one physical partition have the ranges of the
layout among them, each once, so that every key of it is claimed by exactly one of them. -/
namespace TopicFeed
namespace Partition

variable {topic other : String} {id number : Int32} {ranges others : List KeyRange}
  {mode : ShareMode} {p q : Partition}

/-- The partitions differ in nothing but which of the ranges they have. -/
theorem eq_of_of_sharing (member : p ∈ sharing topic id ranges mode) :
    ∃ own ⊆ ranges, p = of topic id own mode := by
  cases mode with
  | join => exact ⟨ranges, List.Subset.refl _, List.mem_singleton.mp member⟩
  | split =>
      obtain ⟨r, here, rfl⟩ := List.mem_map.mp member
      exact ⟨[r], List.cons_subset.mpr ⟨here, List.nil_subset _⟩, rfl⟩

theorem topic_of_sharing (member : p ∈ sharing topic id ranges mode) :
    p.topic = TopicName.complete topic := by
  obtain ⟨own, _, rfl⟩ := eq_of_of_sharing member
  rfl

theorem id_of_sharing (member : p ∈ sharing topic id ranges mode) : p.id = id := by
  obtain ⟨own, _, rfl⟩ := eq_of_of_sharing member
  rfl

theorem mode_of_sharing (member : p ∈ sharing topic id ranges mode) : p.mode = mode := by
  obtain ⟨own, _, rfl⟩ := eq_of_of_sharing member
  rfl

theorem ranges_of_sharing (member : p ∈ sharing topic id ranges mode) :
    p.ranges.Nodup ∧ p.ranges ⊆ ranges := by
  obtain ⟨own, some, rfl⟩ := eq_of_of_sharing member
  exact ⟨OrderedSet.nodup_toList _, fun r found => some (OrderedSet.mem_ofList.mp found)⟩

/-- Each range is one of a partition that shares it. -/
theorem exists_sharing {r : KeyRange} (here : r ∈ ranges) (topic : String) (id : Int32)
    (mode : ShareMode) : ∃ p ∈ sharing topic id ranges mode, r ∈ p.ranges := by
  cases mode with
  | join => exact ⟨_, List.mem_singleton_self _, OrderedSet.mem_ofList.mpr here⟩
  | split => exact ⟨_, List.mem_map.mpr ⟨r, here, rfl⟩, List.mem_singleton_self r⟩

/-- Of one physical partition, a range alone tells which partition it belongs to, and so do all the
ranges together. -/
theorem eq_of_sharing (here : p ∈ sharing topic id ranges mode)
    (there : q ∈ sharing other number others mode) (together : mode = .join → ranges = others)
    (topics : p.topic = q.topic) (ids : p.id = q.id) {r : KeyRange} (within : r ∈ p.ranges)
    (again : r ∈ q.ranges) : p = q := by
  rw [topic_of_sharing here, topic_of_sharing there] at topics
  rw [id_of_sharing here, id_of_sharing there] at ids
  cases mode with
  | join =>
      rw [List.mem_singleton.mp here, List.mem_singleton.mp there, of, of, topics, ids,
        together rfl]
  | split =>
      obtain ⟨a, _, rfl⟩ := List.mem_map.mp here
      obtain ⟨b, _, rfl⟩ := List.mem_map.mp there
      rw [← List.mem_singleton.mp within, ← List.mem_singleton.mp again, of, of, topics, ids]

/-- Together the partitions have the ranges, each as often as it is there. -/
theorem sharing_ranges_perm (once : ranges.Nodup) (topic : String) (id : Int32) (mode : ShareMode) :
    ((sharing topic id ranges mode).flatMap Partition.ranges).Perm ranges := by
  cases mode with
  | join =>
      rw [sharing, List.flatMap_singleton]
      exact OrderedSet.ofList_toList_perm once
  | split =>
      rw [sharing, List.flatMap_map]
      have alone : ∀ r : KeyRange, (of topic id [r] .split).ranges = [r] := fun _ => rfl
      simp only [alone, List.flatMap_singleton']
      exact .refl ranges

theorem sharing_nodup (once : ranges.Nodup) (topic : String) (id : Int32) (mode : ShareMode) :
    (sharing topic id ranges mode).Nodup := by
  cases mode with
  | join => exact List.nodup_singleton _
  | split =>
      refine once.map fun a b same => ?_
      have alone : [a] = [b] := congrArg Partition.ranges same
      exact List.singleton_inj.mp alone

/-- How many partitions are made of a physical partition, given the number of ranges. -/
def shareCount (count : Nat) : ShareMode → Nat
  | .join => 1
  | .split => count

theorem length_sharing (topic : String) (id : Int32) (ranges : List KeyRange) (mode : ShareMode) :
    (sharing topic id ranges mode).length = shareCount ranges.length mode := by
  cases mode with
  | join => rfl
  | split => exact List.length_map _

/-- How many of the hash intervals that consumers of the partitions claim have a key in them. -/
def claims (partitions : List Partition) (outOfOrder : Bool) (key : Nat) : Nat :=
  (partitions.flatMap fun p => (StickyPolicy.of p.ranges outOfOrder).ranges).countP
    fun bounds => bounds.1 ≤ key ∧ key ≤ bounds.2

/-- A consumer claims the keys of the ranges of its partition, and no others. -/
theorem claims_eq (partitions : List Partition) (outOfOrder : Bool) (key : Nat) :
    claims partitions outOfOrder key =
      (partitions.flatMap Partition.ranges).countP fun r => key ∈ r := by
  unfold claims
  simp only [StickyPolicy.of]
  rw [← List.map_flatMap, List.countP_map]
  apply List.countP_congr
  intro r _
  simp only [Function.comp_apply, decide_eq_true_eq]
  exact KeyRange.mem_iff_inclusive.symm

theorem claims_sharing {key : Nat} (tiles : KeyRange.Tiles ranges) (below : key < keyCount)
    (topic : String) (id : Int32) (mode : ShareMode) (outOfOrder : Bool) :
    claims (sharing topic id ranges mode) outOfOrder key = 1 := by
  rw [claims_eq, (sharing_ranges_perm tiles.nodup topic id mode).countP_eq]
  exact tiles.countP_eq_one below

end Partition

namespace TopicMetadata

variable {m : TopicMetadata} {id : Int32}

/-- A topic has a physical partition with an id: those from zero on, as many as it is said to have,
or the only one of a topic without partitions. -/
def Has (m : TopicMetadata) (id : Int32) : Prop :=
  0 ≤ id.toInt ∧ id.toInt < m.partitionCount.toNat ∨ m.partitionCount = 0 ∧ id = -1

instance (m : TopicMetadata) (id : Int32) : Decidable (m.Has id) :=
  inferInstanceAs (Decidable (_ ∨ _))

theorem mem_partitionIds (few : m.partitionCount.toNat < 2 ^ 31) :
    id ∈ m.partitionIds ↔ m.Has id := by
  unfold partitionIds Has
  by_cases none : m.partitionCount = 0
  · simp [isPartitioned, none, Partition.unpartitioned]
  · have some : m.isPartitioned = true := decide_eq_true (UInt32.pos_iff_ne_zero.mpr none)
    have fits : m.partitionCount.toNat < TopicName.indexLimit := few
    rw [if_pos some, if_pos fits, or_iff_left fun only => none only.1, List.mem_map]
    constructor
    · rintro ⟨n, listed, rfl⟩
      have below := List.mem_range.mp listed
      rw [Int32.toInt_ofNat_of_lt (by omega)]
      omega
    · rintro ⟨low, high⟩
      refine ⟨id.toInt.toNat, List.mem_range.mpr (by omega), ?_⟩
      apply Int32.toInt_inj.mp
      rw [Int32.toInt_ofNat_of_lt (by omega)]
      omega

theorem partitionIds_nodup (m : TopicMetadata) : m.partitionIds.Nodup := by
  unfold partitionIds
  split
  · split
    · next few =>
      unfold TopicName.indexLimit at few
      refine List.nodup_range.map_on fun i low j high same => ?_
      have below := List.mem_range.mp low
      have below' := List.mem_range.mp high
      have equal := congrArg Int32.toInt same
      rw [Int32.toInt_ofNat_of_lt (by omega), Int32.toInt_ofNat_of_lt (by omega)] at equal
      exact Int.ofNat_inj.mp equal
    · exact List.nodup_nil
  · exact List.nodup_singleton _

/-- The partitions that are made of one physical partition. -/
def partitionsAt (m : TopicMetadata) (ranges : List KeyRange) (mode : ShareMode) (id : Int32) :
    List Partition :=
  (m.partitions ranges mode).filter fun p => p.id = id

theorem partitionsAt_eq_sharing (ranges : List KeyRange) (mode : ShareMode)
    (here : id ∈ m.partitionIds) :
    m.partitionsAt ranges mode id = Partition.sharing m.name id ranges mode := by
  have kept : (Partition.sharing m.name id ranges mode).filter (fun p => p.id = id) =
      Partition.sharing m.name id ranges mode :=
    List.filter_eq_self.mpr fun p member => decide_eq_true (Partition.id_of_sharing member)
  have left : ∀ ids : List Int32, id ∉ ids → ids.flatMap (fun other =>
      (Partition.sharing m.name other ranges mode).filter (fun p => p.id = id)) = [] := by
    intro ids absent
    refine List.flatMap_eq_nil_iff.mpr fun other listed => List.filter_eq_nil_iff.mpr ?_
    intro p member same
    have equal := (Partition.id_of_sharing member).symm.trans (of_decide_eq_true same)
    exact absent (equal ▸ listed)
  have once := m.partitionIds_nodup
  obtain ⟨before, after, whole⟩ := List.append_of_mem here
  rw [whole, List.nodup_middle, List.nodup_cons, List.mem_append, not_or] at once
  rw [partitionsAt, partitions, List.filter_flatMap, whole, List.flatMap_append,
    List.flatMap_cons, kept, left before once.1.1, left after once.1.2, List.nil_append,
    List.append_nil]

end TopicMetadata

namespace KeyLayout

/-- The layouts that can be made, with the number of ranges into which each divides the key space at
some parallelism. -/
inductive Divides (parallelism : UInt32) : KeyLayout → Nat → Prop
  | whole : Divides parallelism .whole 1
  | byParallelism : Divides parallelism (.even none) (max 1 (min parallelism.toNat 65536))
  | evenly {count : UInt32} {layout : KeyLayout} : evenly count = .ok layout →
      Divides parallelism layout (max 1 (min count.toNat 65536))
  | given {ranges : List KeyRange} {mode : ShareMode} {layout : KeyLayout} :
      ofRanges ranges mode = .ok layout → Divides parallelism layout ranges.length

variable {parallelism : UInt32} {layout : KeyLayout} {count : Nat}

theorem Divides.made (divides : layout.Divides parallelism count) : layout.Made := by
  cases divides with
  | whole => exact .whole
  | byParallelism => exact .byParallelism
  | evenly checked => exact .evenly checked
  | given checked => exact .given checked

theorem length_even (count : Option UInt32) (parallelism : UInt32) :
    ((KeyLayout.even count).ranges parallelism).length =
      max 1 (min (count.getD parallelism).toNat 65536) := by
  have fits : evenCount count parallelism ≤ keyCount := Nat.min_le_right _ _
  rw [KeyLayout.ranges, length_evenRanges fits, evenCount, keyCount]
  omega

theorem Divides.length (divides : layout.Divides parallelism count) :
    (layout.ranges parallelism).length = count := by
  cases divides with
  | whole => rfl
  | byParallelism => exact length_even none parallelism
  | evenly checked =>
      unfold KeyLayout.evenly at checked
      split at checked
      · exact nomatch checked
      · cases checked
        exact length_even _ parallelism
  | @given ranges mode _ checked =>
      unfold ofRanges at checked
      cases tiled : KeyRange.checkTiling ranges with
      | error fault =>
          rw [tiled] at checked
          exact nomatch checked
      | ok =>
          rw [tiled] at checked
          cases checked
          exact List.length_mergeSort ranges

end KeyLayout

namespace TopicMetadata

/-- The partitions of a topic are those of its physical partitions, as many of each as the layout
asks for, and every key of a physical partition is claimed by exactly one of them. -/
theorem claimed_once {m : TopicMetadata} {layout : KeyLayout} {parallelism : UInt32} {count : Nat}
    (few : m.partitionCount.toNat < 2 ^ 31) (divides : layout.Divides parallelism count)
    (outOfOrder : Bool) :
    (∀ p ∈ m.partitions (layout.ranges parallelism) layout.mode,
      p.topic = TopicName.complete m.name ∧ m.Has p.id ∧ p.mode = layout.mode) ∧
    ∀ id, m.Has id →
      (m.partitionsAt (layout.ranges parallelism) layout.mode id).Nodup ∧
      (m.partitionsAt (layout.ranges parallelism) layout.mode id).length =
        Partition.shareCount count layout.mode ∧
      ∀ key < 65536, Partition.claims (m.partitionsAt (layout.ranges parallelism) layout.mode id)
        outOfOrder key = 1 := by
  have tiles := divides.made.tiles parallelism
  constructor
  · intro p member
    obtain ⟨id, listed, shares⟩ := List.mem_flatMap.mp member
    have ids := Partition.id_of_sharing shares
    exact ⟨Partition.topic_of_sharing shares, ids ▸ (mem_partitionIds few).mp listed,
      Partition.mode_of_sharing shares⟩
  · intro id has
    rw [partitionsAt_eq_sharing _ _ ((mem_partitionIds few).mpr has)]
    refine ⟨Partition.sharing_nodup tiles.nodup _ _ _, ?_, fun key below => ?_⟩
    · rw [Partition.length_sharing, divides.length]
    · exact Partition.claims_sharing tiles below _ _ _ outOfOrder

end TopicMetadata

namespace Sample

/-- Ranges of which the upper one was given first. -/
def uneven : List KeyRange :=
  [⟨1000, keyCount, by decide, Nat.le_refl _⟩, ⟨0, 1000, by decide, by decide⟩]

def partitioned : TopicMetadata := ⟨"t", 3⟩

end Sample

theorem TopicMetadata.claimed_once_uneven :
    ∃ layout, KeyLayout.ofRanges Sample.uneven .split = .ok layout ∧ layout.Divides 7 2 ∧
      Sample.partitioned.partitionCount.toNat < 2 ^ 31 ∧ Sample.partitioned.Has 2 ∧
      (Sample.partitioned.partitionsAt (layout.ranges 7) layout.mode 2).length = 2 ∧
      ∀ key < 65536, Partition.claims
        (Sample.partitioned.partitionsAt (layout.ranges 7) layout.mode 2) false key = 1 := by
  let layout : KeyLayout := .fixed Sample.uneven.reverse .split
  have made : KeyLayout.ofRanges Sample.uneven .split = .ok layout := by cbv
  have divides : layout.Divides 7 2 := .given made
  have few : Sample.partitioned.partitionCount.toNat < 2 ^ 31 := by decide
  have has : Sample.partitioned.Has 2 := by decide
  obtain ⟨_, each⟩ := TopicMetadata.claimed_once few divides false
  obtain ⟨_, length, once⟩ := each 2 has
  exact ⟨layout, made, divides, few, has, length, once⟩

end TopicFeed
