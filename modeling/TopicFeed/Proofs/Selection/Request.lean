import TopicFeed.Proofs.Collection
import TopicFeed.Proofs.KeySpace.Sharing
import TopicFeed.Proofs.Topic.Name
import TopicFeed.Selection
/-! What names ask for. A name asks for all partitions of a topic or for one of them; the requests
made of many names grant exactly what one of the names asks for, in whatever order they come. -/
namespace TopicFeed

namespace TopicMetadata

theorem isPartitioned_iff {m : TopicMetadata} : m.isPartitioned = true ↔ m.partitionCount ≠ 0 := by
  rw [isPartitioned, decide_eq_true_iff, UInt32.pos_iff_ne_zero]

/-- A topic has no physical partitions but those it is said to have, however many these are. -/
theorem has_of_mem_partitionIds {m : TopicMetadata} {id : Int32} (listed : id ∈ m.partitionIds) :
    m.Has id := by
  by_cases few : m.partitionCount.toNat < TopicName.indexLimit
  · exact (mem_partitionIds few).mp listed
  · rw [partitionIds, if_neg few] at listed
    split at listed
    · exact nomatch listed
    · next whole =>
      exact .inr ⟨not_not.mp (mt isPartitioned_iff.mpr whole), List.mem_singleton.mp listed⟩

end TopicMetadata

namespace Selection

/-- An index is wanted, as all are or as one of a set. -/
def Wants (indexes : Option (OrderedSet Int32)) (id : Int32) : Prop :=
  ∀ listed, indexes = some listed → id ∈ listed

/-- A name asks for a partition, by the name of its topic or by its own. -/
def Asks (name topic : String) (id : Int32) : Prop :=
  (TopicName.parent name).1 = topic ∧ ∀ index, (TopicName.parent name).2 = some index → id = index

namespace Wanted

/-- What is wanted of a topic after one more request for it. -/
def widen : Option (Option (OrderedSet Int32)) → Option Int32 → Option (OrderedSet Int32)
  | _, none => none
  | none, some index => some (.ofList [index])
  | some none, some _ => none
  | some (some indexes), some index => some (indexes.insert index)

section Widen

variable {request : Option (Option (OrderedSet Int32))} {index : Option Int32} {id : Int32}

theorem wants_widen : Wants (widen request index) id ↔
    (∀ i, index = some i → id = i) ∨ ∃ indexes, request = some indexes ∧ Wants indexes id := by
  cases index with
  | none => exact iff_of_true nofun (.inl nofun)
  | some i =>
      cases request with
      | none => simp [widen, Wants]
      | some indexes => cases indexes <;> simp [widen, Wants]

theorem widen_eq_none (all : widen request index = none) : index = none ∨ request = some none := by
  cases index with
  | none => exact .inl rfl
  | some i =>
      cases request with
      | none => exact nomatch all
      | some indexes =>
          cases indexes with
          | none => exact .inr rfl
          | some indexes => exact nomatch all

theorem of_mem_widen {listed : OrderedSet Int32} (single : widen request index = some listed)
    (member : id ∈ listed) :
    index = some id ∨ ∃ before, request = some (some before) ∧ id ∈ before := by
  cases index with
  | none => exact nomatch single
  | some i =>
      cases request with
      | none =>
          cases single
          exact .inl (congrArg some (List.mem_singleton.mp (OrderedSet.mem_ofList.mp member)).symm)
      | some indexes =>
          cases indexes with
          | none => exact nomatch single
          | some before =>
              cases single
              rcases OrderedSet.mem_insert.mp member with rfl | old
              · exact .inl rfl
              · exact .inr ⟨before, rfl, old⟩

end Widen

theorem addName_eq (w : Wanted) (name : String) :
    w.addName name = w.insert (TopicName.parent name).1
      (widen (w.get? (TopicName.parent name).1) (TopicName.parent name).2) := by
  unfold addName
  split
  · next asked => simp [asked, widen]
  · next topic index asked =>
    rw [asked]
    dsimp only
    split
    · next unknown => rw [unknown, widen]
    · next known =>
      -- all partitions are wanted already
      refine OrderedMap.eq_of_get? fun k => ?_
      rw [OrderedMap.get?_insert, known, widen]
      split
      · next same => rw [eq_of_beq same, known]
      · rfl
    · next known => rw [known, widen]

theorem get?_addName (w : Wanted) (name topic : String) : (w.addName name).get? topic =
    if topic = (TopicName.parent name).1 then
      some (widen (w.get? topic) (TopicName.parent name).2)
    else w.get? topic := by
  rw [addName_eq, OrderedMap.get?_insert]
  by_cases here : topic = (TopicName.parent name).1 <;> simp [here]

variable {w : Wanted} {name topic : String} {id : Int32}

/-- A partition of a topic is wanted. -/
def Grants (w : Wanted) (topic : String) (id : Int32) : Prop :=
  ∃ indexes, w.get? topic = some indexes ∧ Wants indexes id

theorem grants_addName :
    (w.addName name).Grants topic id ↔ Asks name topic id ∨ w.Grants topic id := by
  unfold Grants Asks
  rw [get?_addName]
  split
  · next here =>
    rw [and_iff_right here.symm, ← wants_widen]
    simp
  · next other => exact (or_iff_right fun asks => other asks.1.symm).symm

theorem grants_ofNames {names : List String} :
    (ofNames names).Grants topic id ↔ ∃ name ∈ names, Asks name topic id := by
  have grows (w : Wanted) : (names.foldl addName w).Grants topic id ↔
      (∃ name ∈ names, Asks name topic id) ∨ w.Grants topic id := by
    induction names generalizing w with
    | nil => simp
    | cons name rest ih =>
        rw [List.foldl_cons, ih, grants_addName]
        simp only [List.mem_cons, exists_eq_or_imp]
        rw [or_left_comm, or_assoc]
  refine (grows ∅).trans (or_iff_left ?_)
  rintro ⟨_, absent, _⟩
  exact nomatch absent

/-- Whole topics are wanted by complete names that are no names of partitions, and single partitions
by indexes from zero on. -/
structure Proper (w : Wanted) : Prop where
  whole : ∀ topic, w.get? topic = some none → TopicName.parent topic = (topic, none)
  single : ∀ topic listed, w.get? topic = some (some listed) → ∀ i ∈ listed, 0 ≤ i.toInt

theorem Proper.addName (proper : w.Proper) (name : String) : (w.addName name).Proper := by
  constructor
  · intro topic wanted
    rw [get?_addName] at wanted
    split at wanted
    · next here =>
      rcases widen_eq_none (Option.some.inj wanted) with asked | before
      · have same := TopicName.parent_of_whole asked
        rw [here, same, TopicName.parent_complete, same]
      · exact proper.whole topic before
    · exact proper.whole topic wanted
  · intro topic listed wanted i member
    rw [get?_addName] at wanted
    split at wanted
    · rcases of_mem_widen (Option.some.inj wanted) member with asked | ⟨before, known, old⟩
      · exact TopicName.index_nonneg asked
      · exact proper.single topic before known i old
    · exact proper.single topic listed wanted i member

theorem proper_ofNames (names : List String) : (ofNames names).Proper := by
  have kept (w : Wanted) (proper : w.Proper) : (names.foldl Wanted.addName w).Proper := by
    induction names generalizing w with
    | nil => exact proper
    | cons name rest ih => exact ih _ (proper.addName name)
  exact kept ∅ ⟨nofun, nofun⟩

end Wanted

section Expansion

variable {described : TopicMetadata} {ranges : List KeyRange} {mode : ShareMode}
  {indexes : Option (OrderedSet Int32)} {p : Partition}

/-- The wanted partitions of a topic are those it has. -/
theorem mem_partitionsOf (few : described.partitionCount.toNat < 2 ^ 31)
    (signed : ∀ listed, indexes = some listed → ∀ i ∈ listed, 0 ≤ i.toInt) :
    p ∈ partitionsOf described ranges mode indexes ↔ ∃ id, described.Has id ∧ Wants indexes id ∧
      p ∈ Partition.sharing described.name id ranges mode := by
  cases indexes with
  | none =>
      rw [partitionsOf, TopicMetadata.partitions, List.mem_flatMap]
      refine exists_congr fun id => ?_
      have all : Wants none id := by
        rintro listed ⟨⟩
      rw [TopicMetadata.mem_partitionIds few, and_iff_right all]
  | some listed =>
      have low := signed listed rfl
      have wants (id : Int32) : Wants (some listed) id ↔ id ∈ listed := by simp [Wants]
      rw [partitionsOf]
      split
      · next partitioned =>
        rw [List.mem_flatMap]
        refine exists_congr fun id => ?_
        rw [List.mem_filter, decide_eq_true_iff, wants, ← and_assoc]
        refine and_congr_left fun _ => ?_
        constructor
        · rintro ⟨wanted, high⟩
          exact ⟨.inl ⟨low id wanted, high⟩, wanted⟩
        · rintro ⟨⟨_, high⟩ | ⟨none, _⟩, wanted⟩
          · exact ⟨wanted, high⟩
          · exact absurd none (TopicMetadata.isPartitioned_iff.mp partitioned)
      · next whole =>
        have none := not_not.mp (mt TopicMetadata.isPartitioned_iff.mpr whole)
        refine iff_of_false List.not_mem_nil ?_
        rintro ⟨id, ⟨_, high⟩ | ⟨_, rfl⟩, wanted, _⟩
        · have low := low id ((wants id).mp wanted)
          rw [none] at high
          exact absurd (low.trans_lt high) (by decide)
        · exact absurd (low _ ((wants _).mp wanted)) (by decide)

/-- However many partitions a topic is said to have, no others than those wanted are made of it. -/
theorem of_mem_partitionsOf (member : p ∈ partitionsOf described ranges mode indexes) :
    p.topic = TopicName.complete described.name ∧ Wants indexes p.id ∧
      (indexes = none → described.Has p.id) := by
  cases indexes with
  | none =>
      obtain ⟨id, listed, shares⟩ := List.mem_flatMap.mp member
      have same := Partition.id_of_sharing shares
      exact ⟨Partition.topic_of_sharing shares, nofun,
        fun _ => same ▸ TopicMetadata.has_of_mem_partitionIds listed⟩
  | some listed =>
      rw [partitionsOf] at member
      split at member
      · obtain ⟨id, kept, shares⟩ := List.mem_flatMap.mp member
        have same := Partition.id_of_sharing shares
        refine ⟨Partition.topic_of_sharing shares, fun _ is => ?_, nofun⟩
        cases is
        exact same ▸ List.mem_of_mem_filter kept
      · exact nomatch member

end Expansion

end Selection
end TopicFeed
