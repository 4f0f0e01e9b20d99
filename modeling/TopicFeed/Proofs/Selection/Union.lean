import TopicFeed.Proofs.Selection.Identity
/-! Names are independent. Before a broker that keeps to what it says, the partitions of many names
are those of one name or another, and the name of a partition stands for the partition alone. -/
namespace TopicFeed
namespace Selection

open Wanted (Grants)

/-- A description of a topic with partitions that can be numbered, or that there is none. -/
inductive Definite : Except BrokerError TopicMetadata → Prop
  | found {described : TopicMetadata} (few : described.partitionCount.toNat < 2 ^ 31) :
      Definite (.ok described)
  | missing (topic : String) : Definite (.error (.notFound topic))

/-- A broker with a definite answer about every topic. -/
def Honest (broker : (question : AdminQuestion) → question.Reply) : Prop :=
  ∀ topic, Definite (broker (.metadata topic))

/-- What is found for some names, if the answers are always the same. -/
def foundBy (broker : (question : AdminQuestion) → question.Reply) (layout : KeyLayout)
    (parallelism : UInt32) (names : List String) : Except Failure (OrderedSet Partition) :=
  ((ofNames names).partitions layout parallelism).against broker

variable {broker : (question : AdminQuestion) → question.Reply} {ranges : List KeyRange}
  {mode : ShareMode} {layout : KeyLayout} {parallelism : UInt32} {topic : String}

/-- A broker offers a partition of the physical partition of a topic. -/
def Offers (broker : (question : AdminQuestion) → question.Reply) (ranges : List KeyRange)
    (mode : ShareMode) (topic : String) (id : Int32) (p : Partition) : Prop :=
  ∃ described, broker (.metadata topic) = .ok described ∧ described.Has id ∧
    p ∈ Partition.sharing described.name id ranges mode

theorem Offers.id_eq {id : Int32} {p : Partition} (offers : Offers broker ranges mode topic id p) :
    p.id = id := by
  obtain ⟨described, _, _, shares⟩ := offers
  exact Partition.id_of_sharing shares

theorem Honest.few (honest : Honest broker) {described : TopicMetadata}
    (replied : broker (.metadata topic) = .ok described) :
    described.partitionCount.toNat < 2 ^ 31 := by
  have definite := honest topic
  rw [replied] at definite
  cases definite with
  | found few => exact few

theorem metadata_against (honest : Honest broker) (topic : String) :
    (metadata topic).against broker = .ok (broker (.metadata topic)).toOption := by
  have definite := honest topic
  rw [metadata, Dialogue.against_ask]
  generalize broker (.metadata topic) = reply at definite ⊢
  cases definite <;> rfl

/-- No question fails, so every entry adds what the broker knows of its topic. -/
theorem collect_against (honest : Honest broker) (ranges : List KeyRange) (mode : ShareMode)
    (entries : List (String × Option (OrderedSet Int32))) (found : OrderedSet Partition) :
    ∃ all, (collect ranges mode entries found).against broker = .ok all ∧
      ∀ p, p ∈ all ↔ p ∈ found ∨ ∃ e ∈ entries, ∃ described,
        broker (.metadata e.1) = .ok described ∧ p ∈ partitionsOf described ranges mode e.2 := by
  induction entries generalizing found with
  | nil => exact ⟨found, rfl, fun p => by simp⟩
  | cons entry rest ih =>
      rw [collect, Dialogue.against_bind, metadata_against honest]
      cases reply : broker (.metadata entry.1) with
      | ok described =>
          obtain ⟨all, result, members⟩ :=
            ih (found.union (.ofList (partitionsOf described ranges mode entry.2)))
          refine ⟨all, result, fun p => ?_⟩
          rw [members, OrderedSet.mem_union, OrderedSet.mem_ofList, or_assoc]
          simp [reply]
      | error cause =>
          obtain ⟨all, result, members⟩ := ih found
          refine ⟨all, result, fun p => ?_⟩
          rw [members]
          simp [reply]

/-- What the requests and the descriptions ask for is what is granted and offered. -/
theorem made_iff_offered (honest : Honest broker) {w : Wanted} (proper : w.Proper) {p : Partition} :
    (∃ e ∈ w.entries, ∃ described, broker (.metadata e.1) = .ok described ∧
      p ∈ partitionsOf described ranges mode e.2) ↔
      ∃ topic id, w.Grants topic id ∧ Offers broker ranges mode topic id p := by
  constructor
  · rintro ⟨⟨topic, indexes⟩, listed, described, replied, made⟩
    have wanted := (w.get?_eq_some_iff topic).mpr listed
    have signed : ∀ few, indexes = some few → ∀ i ∈ few, 0 ≤ i.toInt := by
      rintro few rfl
      exact proper.single topic few wanted
    obtain ⟨id, has, wants, shares⟩ := (mem_partitionsOf (honest.few replied) signed).mp made
    exact ⟨topic, id, ⟨indexes, wanted, wants⟩, described, replied, has, shares⟩
  · rintro ⟨topic, id, ⟨indexes, wanted, wants⟩, described, replied, has, shares⟩
    have signed : ∀ few, indexes = some few → ∀ i ∈ few, 0 ≤ i.toInt := by
      rintro few rfl
      exact proper.single topic few wanted
    exact ⟨(topic, indexes), (w.get?_eq_some_iff topic).mp wanted, described, replied,
      (mem_partitionsOf (honest.few replied) signed).mpr ⟨id, has, wants, shares⟩⟩

theorem asks_complete {name : String} {id : Int32} :
    Asks (TopicName.complete name) topic id ↔ Asks name topic id := by
  rw [Asks, Asks, TopicName.parent_complete]

/-- Found is what some name asks for and the broker offers. -/
theorem foundBy_spec (honest : Honest broker) (layout : KeyLayout) (parallelism : UInt32)
    (names : List String) : ∃ all, foundBy broker layout parallelism names = .ok all ∧
      ∀ p, p ∈ all ↔ ∃ name ∈ names, ∃ topic id, Asks name topic id ∧
        Offers broker (layout.ranges parallelism) layout.mode topic id p := by
  have proper := Wanted.proper_ofNames (names.map TopicName.complete)
  obtain ⟨all, result, members⟩ := collect_against honest (layout.ranges parallelism) layout.mode
    (Wanted.ofNames (names.map TopicName.complete)).entries ∅
  refine ⟨all, result, fun p => ?_⟩
  refine (members p).trans ((or_iff_right List.not_mem_nil).trans ?_)
  rw [made_iff_offered honest proper]
  simp only [Wanted.grants_ofNames, List.mem_map, exists_exists_and_eq_and, asks_complete]
  constructor
  · rintro ⟨topic, id, ⟨name, listed, asks⟩, offers⟩
    exact ⟨name, listed, topic, id, asks, offers⟩
  · rintro ⟨name, listed, topic, id, asks, offers⟩
    exact ⟨topic, id, ⟨name, listed, asks⟩, offers⟩

/-- A name of a partition asks for one of those that the name of the topic asks for. -/
theorem asks_ofPartition {name : String} {index id : Int32}
    (whole : (TopicName.parent name).2 = none) (signed : 0 ≤ index.toInt) :
    Asks (TopicName.ofPartition name index) topic id ↔ Asks name topic id ∧ id = index := by
  rw [Asks, Asks, TopicName.parent_ofPartition name signed, TopicName.parent_of_whole whole]
  simp

/-- The partitions found for many names are those found for one of them, so neither their order nor
their repetitions matter; and the name of a partition stands for those partitions of its topic that
have its index. -/
theorem found_union (honest : Honest broker) (layout : KeyLayout) (parallelism : UInt32) :
    ∃ each : String → OrderedSet Partition,
      (∀ name, foundBy broker layout parallelism [name] = .ok (each name)) ∧
      (∀ names, foundBy broker layout parallelism names = .ok (.unions (names.map each))) ∧
      (∀ names names', (∀ name, name ∈ names ↔ name ∈ names') →
        foundBy broker layout parallelism names = foundBy broker layout parallelism names') ∧
      ∀ topic index, (TopicName.parent topic).2 = none → 0 ≤ index.toInt →
        each (TopicName.ofPartition topic index) = (each topic).filter fun p => p.id = index := by
  choose each alone members using fun name => foundBy_spec honest layout parallelism [name]
  simp only [List.mem_singleton, exists_eq_left] at members
  have together (names : List String) :
      foundBy broker layout parallelism names = .ok (.unions (names.map each)) := by
    obtain ⟨all, result, some⟩ := foundBy_spec honest layout parallelism names
    rw [result]
    refine congrArg _ (OrderedSet.eq_of_mem_iff fun p => ?_)
    simp only [some, OrderedSet.mem_unions, List.mem_map, exists_exists_and_eq_and, members]
  refine ⟨each, alone, together, fun names names' same => ?_, fun topic index whole signed => ?_⟩
  · rw [together, together]
    refine congrArg _ (OrderedSet.eq_of_mem_iff fun p => ?_)
    simp only [OrderedSet.mem_unions, List.mem_map, exists_exists_and_eq_and, same]
  · refine OrderedSet.eq_of_mem_iff fun p => ?_
    simp only [OrderedSet.mem_filter, members, decide_eq_true_iff, asks_ofPartition whole signed]
    constructor
    · rintro ⟨parent, id, ⟨asks, rfl⟩, offers⟩
      exact ⟨⟨parent, id, asks, offers⟩, offers.id_eq⟩
    · rintro ⟨⟨parent, id, asks, offers⟩, rfl⟩
      exact ⟨parent, id, ⟨asks, offers.id_eq.symm⟩, offers⟩

theorem found_union_threefold : ∃ each : String → OrderedSet Partition,
    foundBy Sample.threefold .whole 1 ["t-partition-2", "u", "t", "t-partition-2"] =
      .ok (.unions [each "t-partition-2", each "u", each "t", each "t-partition-2"]) ∧
    foundBy Sample.threefold .whole 1 ["t", "u", "t-partition-2"] =
      foundBy Sample.threefold .whole 1 ["t-partition-2", "u", "t", "t-partition-2"] ∧
    each "u" = ∅ ∧ each "t-partition-2" = (each "t").filter fun p => p.id = 2 := by
  have honest : Honest Sample.threefold := by
    intro topic
    dsimp only [Sample.threefold]
    split
    · exact .found (show (3 : UInt32).toNat < 2 ^ 31 by decide)
    · exact .missing topic
  obtain ⟨each, alone, together, unordered, single⟩ := found_union honest .whole 1
  refine ⟨each, together _, unordered _ _ fun name => ?_, ?_, ?_⟩
  · simp only [List.mem_cons, List.not_mem_nil]
    tauto
  · have nothing : foundBy Sample.threefold .whole 1 ["u"] = .ok ∅ := by decide +kernel
    exact Except.ok.inj ((alone "u").symm.trans nothing)
  · exact single "t" 2 (by decide +kernel) (by decide)

end Selection
end TopicFeed
