import TopicFeed.Proofs.Selection.Identity
import TopicFeed.Proofs.Topic.Spelling
/-! Single partitions. A name that is read as that of one partition asks for that partition and
finds nothing else. The partition found is known to the broker by the name that is made for it,
which is the name that was given if the index in it is written as it is printed. -/
namespace TopicFeed
namespace Selection

/-- Topics are described under the names by which they were asked for. -/
def Named (t : Dialogue.Transcript AdminQuestion.Reply) : Prop :=
  ∀ topic described, ⟨.metadata topic, .ok described⟩ ∈ t → described.name = topic

/-- Whatever a name finds is known to the broker by this name. -/
def FindsNamed (name : String) : Prop :=
  ∀ (layout : KeyLayout) (parallelism : UInt32) (t : Dialogue.Transcript AdminQuestion.Reply)
    (found : OrderedSet Partition),
    ((ofNames [name]).partitions layout parallelism).Yields t (.ok found) → Named t →
      ∀ p ∈ found, p.fullName = TopicName.complete name

theorem partitions_ofNames (names : List String) (layout : KeyLayout) (parallelism : UInt32) :
    (ofNames names).partitions layout parallelism = collect (layout.ranges parallelism) layout.mode
      (Wanted.ofNames (names.map TopicName.complete)).entries ∅ := rfl

section Found

variable {name topic : String} {index : Int32}
  (single : TopicName.parent name = (topic, some index))

include single

/-- The name asks for one partition of one topic. -/
theorem partitions_of_single (layout : KeyLayout) (parallelism : UInt32) :
    (ofNames [name]).partitions layout parallelism =
      collect (layout.ranges parallelism) layout.mode [(topic, some (.ofList [index]))] ∅ := by
  rw [partitions_ofNames, List.map_singleton, Wanted.ofNames, List.foldl_cons, List.foldl_nil,
    Wanted.addName_eq, TopicName.parent_complete, single]
  rfl

theorem index_signed : 0 ≤ index.toInt := TopicName.index_nonneg (congrArg Prod.snd single)

theorem topic_complete : TopicName.complete topic = topic := by
  have completed := TopicName.complete_parent name
  rwa [single] at completed

theorem of_mem_found {layout : KeyLayout} {parallelism : UInt32}
    {t : Dialogue.Transcript AdminQuestion.Reply} {found : OrderedSet Partition} {p : Partition}
    (yields : ((ofNames [name]).partitions layout parallelism).Yields t (.ok found))
    (named : Named t) (member : p ∈ found) : p.topic = topic ∧ p.id = index := by
  rw [partitions_of_single single] at yields
  rcases of_mem_collect yields member with none | ⟨asked, indexes, described, listed, replied, made⟩
  · exact nomatch none
  · obtain ⟨rfl, rfl⟩ := Prod.mk.inj (List.mem_singleton.mp listed)
    obtain ⟨topics, wants, _⟩ := of_mem_partitionsOf made
    rw [topics, named _ _ replied, topic_complete single]
    exact ⟨rfl, List.mem_singleton.mp (OrderedSet.mem_ofList.mp (wants _ rfl))⟩

/-- It is the partition for which this name is made. -/
theorem fullName_of_single {p : Partition} (found : p.topic = topic ∧ p.id = index) :
    p.fullName = TopicName.ofPartition topic index := by
  obtain ⟨rfl, rfl⟩ := found
  apply Partition.fullName_of_partitioned
  intro whole
  have signed := index_signed single
  rw [whole] at signed
  exact absurd signed (by decide)

theorem yields_described (layout : KeyLayout) (parallelism : UInt32) (described : TopicMetadata) :
    ((ofNames [name]).partitions layout parallelism).Yields [⟨.metadata topic, .ok described⟩]
      (.ok (.union ∅ (.ofList (partitionsOf described (layout.ranges parallelism) layout.mode
        (some (.ofList [index])))))) := by
  rw [partitions_of_single single]
  exact .ask (.done _)

/-- A broker may have the partition, so something is found. -/
theorem exists_found : ∃ t found p,
    ((ofNames [name]).partitions .whole 1).Yields t (.ok found) ∧ Named t ∧ p ∈ found := by
  obtain ⟨count, partitioned, above⟩ :
      ∃ count : UInt32, count ≠ 0 ∧ index.toInt < (count.toNat : Int) := by
    have signed := index_signed single
    have below := index.toInt_lt
    have exact : (UInt32.ofNat (index.toInt.toNat + 1)).toNat = index.toInt.toNat + 1 :=
      UInt32.toNat_ofNat_of_lt' (by rw [UInt32.size]; omega)
    refine ⟨.ofNat (index.toInt.toNat + 1), fun none => ?_, by omega⟩
    rw [none] at exact
    exact nomatch exact
  refine ⟨_, _, .of topic index [.full] .split, yields_described single .whole 1 ⟨topic, count⟩,
    ?_, ?_⟩
  · intro topic described replied
    cases List.mem_singleton.mp replied
    rfl
  · apply OrderedSet.mem_union.mpr
    right
    rw [OrderedSet.mem_ofList, partitionsOf,
      if_pos (TopicMetadata.isPartitioned_iff.mpr partitioned)]
    apply List.mem_flatMap.mpr
    refine ⟨index, List.mem_filter.mpr ⟨?_, decide_eq_true above⟩, ?_⟩
    · exact OrderedSet.mem_ofList.mpr List.mem_cons_self
    · exact List.mem_cons_self

end Found

/-- Of the name of a single partition, whatever is found is this partition of its topic. It is known
by the name that was given exactly if the index is written in it as it is printed. -/
theorem findsNamed_iff {name topic : String} {index : Int32}
    (single : TopicName.parent name = (topic, some index)) :
    (FindsNamed name ↔ TopicName.Plain (TopicName.indexText name)) ∧
    (TopicName.ofPartition topic index = TopicName.complete name ↔
      TopicName.Plain (TopicName.indexText name)) ∧
    ∀ (layout : KeyLayout) (parallelism : UInt32) (t : Dialogue.Transcript AdminQuestion.Reply)
      (found : OrderedSet Partition),
      ((ofNames [name]).partitions layout parallelism).Yields t (.ok found) → Named t →
        ∀ p ∈ found, p.topic = topic ∧ p.id = index := by
  have spelled := TopicName.ofPartition_eq_complete_iff single
  refine ⟨⟨fun finds => ?_, fun plain => ?_⟩, spelled, ?_⟩
  · obtain ⟨t, found, p, yields, named, member⟩ := exists_found single
    have same := finds .whole 1 t found yields named p member
    rw [fullName_of_single single (of_mem_found single yields named member)] at same
    exact spelled.mp same
  · intro layout parallelism t found yields named p member
    rw [fullName_of_single single (of_mem_found single yields named member)]
    exact spelled.mpr plain
  · intro layout parallelism t found yields named p member
    exact of_mem_found single yields named member

theorem findsNamed_iff_third :
    TopicName.parent "t-partition-2" = ("persistent://public/default/t", some 2) ∧
      TopicName.indexText "t-partition-2" = ['2'] ∧ FindsNamed "t-partition-2" := by
  have single : TopicName.parent "t-partition-2" = ("persistent://public/default/t", some 2) := by
    decide +kernel
  have written : TopicName.indexText "t-partition-2" = ['2'] := by decide +kernel
  have plain : TopicName.Plain (TopicName.indexText "t-partition-2") := by
    rw [written]
    decide
  exact ⟨single, written, (findsNamed_iff single).1.mpr plain⟩

/-- A zero before the index leads to the partition of another name. -/
theorem not_findsNamed_padded :
    TopicName.parent "t-partition-02" = ("persistent://public/default/t", some 2) ∧
      ¬FindsNamed "t-partition-02" := by
  refine ⟨by decide +kernel, fun finds => ?_⟩
  obtain ⟨t, yields, replies⟩ := Dialogue.yields_against Sample.threefold
    ((ofNames ["t-partition-02"]).partitions .whole 1)
  have result : ((ofNames ["t-partition-02"]).partitions .whole 1).against Sample.threefold =
      .ok (.ofList [Sample.third]) := by
    decide +kernel
  rw [result] at yields
  have named : Named t := by
    intro topic described replied
    have reply := replies _ replied
    dsimp only [Sample.threefold] at reply
    split at reply
    · cases reply
      rfl
    · exact nomatch reply
  have same := finds .whole 1 t _ yields named Sample.third
    (OrderedSet.mem_ofList.mpr List.mem_cons_self)
  exact absurd same (by decide +kernel)

end Selection
end TopicFeed
