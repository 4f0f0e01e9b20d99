import TopicFeed.Proofs.Dialogue
import TopicFeed.Proofs.Selection.Request
/-! The identity of splits. A split is known by the text of its partition, a name of any length
before two bars; read from its end, the text tells all parts of the partition. -/
namespace TopicFeed

/-- The last of some separators ends the part before it. -/
theorem append_cons_inj_last {α : Type} {c : α} {before before' after after' : List α}
    (last : c ∉ after) (last' : c ∉ after') :
    before ++ c :: after = before' ++ c :: after' ↔ before = before' ∧ after = after' := by
  constructor
  · intro same
    rcases List.append_eq_append_iff.mp same with ⟨middle, rfl, rest⟩ | ⟨middle, rfl, rest⟩
    · cases middle with
      | nil => exact ⟨(List.append_nil before).symm, List.tail_eq_of_cons_eq rest⟩
      | cons d middle =>
          obtain ⟨_, rfl⟩ := List.cons.inj rest
          exact absurd (List.mem_append_right middle List.mem_cons_self) last
    · cases middle with
      | nil => exact ⟨List.append_nil before', (List.tail_eq_of_cons_eq rest).symm⟩
      | cons d middle =>
          obtain ⟨_, rfl⟩ := List.cons.inj rest
          exact absurd (List.mem_append_right middle List.mem_cons_self) last'
  · rintro ⟨rfl, rfl⟩
    rfl

theorem toDigits_injective {m n : Nat} (same : Nat.toDigits 10 m = Nat.toDigits 10 n) : m = n := by
  have read := congrArg (fun digits => Nat.ofDigitChars 10 digits 0) same
  simpa only [Nat.ofDigitChars_ten_toDigits] using read

namespace KeyRange

theorem toList_toString (r : KeyRange) :
    r.toString.toList = Nat.toDigits 10 r.start ++ '-' :: Nat.toDigits 10 r.stop := by
  simp [KeyRange.toString, Nat.toString_eq_repr, Nat.toList_repr]
  rfl

theorem not_mem_toString {c : Char} (other : c.isDigit = false) (dash : c ≠ '-') (r : KeyRange) :
    c ∉ r.toString.toList := by
  rw [toList_toString, List.mem_append, List.mem_cons, not_or, not_or]
  exact ⟨TopicName.not_mem_toDigits other, dash, TopicName.not_mem_toDigits other⟩

theorem toString_injective {r s : KeyRange} (same : r.toString = s.toString) : r = s := by
  have texts := congrArg String.toList same
  rw [toList_toString, toList_toString,
    append_cons_inj_last (TopicName.not_mem_toDigits rfl) (TopicName.not_mem_toDigits rfl)] at texts
  cases r
  cases s
  cases toDigits_injective texts.1
  cases toDigits_injective texts.2
  rfl

/-- How ranges are written, one after the other. -/
def text (ranges : List KeyRange) : List Char :=
  [','].intercalate (ranges.map fun r => r.toString.toList)

theorem not_mem_text {c : Char} (other : c.isDigit = false) (dash : c ≠ '-') (comma : c ≠ ',')
    (ranges : List KeyRange) : c ∉ text ranges := by
  unfold text
  induction ranges with
  | nil => exact List.not_mem_nil
  | cons r rest ih =>
      have first := r.not_mem_toString other dash
      cases rest with
      | nil => simpa using first
      | cons s rest =>
          have more : (s :: rest).map (fun r => r.toString.toList) ≠ [] := List.cons_ne_nil _ _
          rw [List.map_cons, List.intercalate_cons_of_ne_nil more]
          simp only [List.mem_append, List.mem_singleton, not_or]
          exact ⟨⟨first, comma⟩, ih⟩

/-- Ranges are read off their text at the commas. -/
theorem splitOn_text {ranges : List KeyRange} (some : ranges ≠ []) :
    (text ranges).splitOn ',' = ranges.map fun r => r.toString.toList := by
  apply List.splitOn_intercalate ',' ?_ (mt List.map_eq_nil_iff.mp some)
  intro part member
  obtain ⟨r, _, rfl⟩ := List.mem_map.mp member
  exact r.not_mem_toString rfl (by decide)

theorem text_ne_nil {ranges : List KeyRange} (some : ranges ≠ []) : text ranges ≠ [] := by
  intro empty
  have parts := splitOn_text some
  rw [empty, List.splitOn_nil] at parts
  obtain ⟨r, _, none⟩ := List.map_eq_singleton_iff.mp parts.symm
  rw [toList_toString] at none
  simp at none

theorem text_injective {ranges ranges' : List KeyRange} (same : text ranges = text ranges') :
    ranges = ranges' := by
  by_cases none : ranges = []
  · by_cases none' : ranges' = []
    · rw [none, none']
    · rw [none] at same
      exact absurd same.symm (text_ne_nil none')
  · by_cases none' : ranges' = []
    · rw [none'] at same
      exact absurd same (text_ne_nil none)
    · have parts := splitOn_text none
      rw [same, splitOn_text none'] at parts
      refine ((List.map_inj_right fun r s texts => ?_).mp parts).symm
      exact toString_injective (String.toList_inj.mp texts)

end KeyRange

namespace ShareMode

theorem not_mem_toString (mode : ShareMode) : '|' ∉ mode.toString.toList := by
  cases mode <;> decide

theorem toString_injective {a b : ShareMode} (same : a.toString = b.toString) : a = b := by
  cases a <;> cases b <;> first | rfl | exact absurd same (by decide)

end ShareMode

namespace Partition

/-- The id is one of a partition or that of a topic without partitions, and such a topic is not
named like a partition. -/
structure Addressable (p : Partition) : Prop where
  id_ge : -1 ≤ p.id.toInt
  whole : p.id = unpartitioned → (TopicName.parent p.topic).2 = none

variable {p q : Partition}

theorem Addressable.signed (addressable : p.Addressable) (partitioned : p.id ≠ unpartitioned) :
    0 ≤ p.id.toInt := by
  have other : p.id.toInt ≠ -1 := fun same => partitioned (Int32.toInt_inj.mp same)
  have low := addressable.id_ge
  omega

theorem fullName_of_whole (whole : p.id = unpartitioned) : p.fullName = p.topic := by
  simp [fullName, isPartitioned, whole]

theorem fullName_of_partitioned (partitioned : p.id ≠ unpartitioned) :
    p.fullName = TopicName.ofPartition p.topic p.id := by
  simp [fullName, isPartitioned, partitioned]

/-- A topic that is not named like a partition is not named like this partition. -/
theorem Addressable.fullName_ne (here : p.Addressable) (there : q.Addressable)
    (whole : p.id = unpartitioned) (partitioned : q.id ≠ unpartitioned) :
    p.fullName ≠ q.fullName := by
  intro same
  rw [fullName_of_whole whole, fullName_of_partitioned partitioned] at same
  have named := here.whole whole
  rw [same, TopicName.parent_ofPartition _ (there.signed partitioned)] at named
  exact nomatch named

theorem Addressable.fullName_injective (here : p.Addressable) (there : q.Addressable)
    (same : p.fullName = q.fullName) : p.topic = q.topic ∧ p.id = q.id := by
  by_cases whole : p.id = unpartitioned
  · by_cases whole' : q.id = unpartitioned
    · rw [fullName_of_whole whole, fullName_of_whole whole'] at same
      exact ⟨same, whole.trans whole'.symm⟩
    · exact absurd same (here.fullName_ne there whole whole')
  · by_cases whole' : q.id = unpartitioned
    · exact absurd same.symm (there.fullName_ne here whole' whole)
    · have texts := congrArg String.toList same
      have signed := here.signed whole
      have signed' := there.signed whole'
      rw [fullName_of_partitioned whole, fullName_of_partitioned whole',
        TopicName.toList_ofPartition _ signed, TopicName.toList_ofPartition _ signed'] at texts
      have parts := congrArg (TopicName.splitAtLast TopicName.partitionSuffix) texts
      rw [TopicName.splitAtLast_partitionSuffix (TopicName.not_mem_toDigits rfl),
        TopicName.splitAtLast_partitionSuffix (TopicName.not_mem_toDigits rfl)] at parts
      obtain ⟨topics, digits⟩ := Prod.mk.inj (Option.some.inj parts)
      have ids := toDigits_injective digits
      refine ⟨String.toList_inj.mp topics, Int32.toInt_inj.mp ?_⟩
      omega

theorem toList_toString (p : Partition) : p.toString.toList =
    p.fullName.toList ++ '|' :: (KeyRange.text p.ranges ++ '|' :: p.mode.toString.toList) := by
  simp [Partition.toString, KeyRange.text, Function.comp_def]

theorem Addressable.eq_of_toString (here : p.Addressable) (there : q.Addressable)
    (same : p.toString = q.toString) : p = q := by
  have texts := congrArg String.toList same
  rw [toList_toString, toList_toString, ← List.cons_append, ← List.append_assoc,
    ← List.cons_append, ← List.append_assoc,
    append_cons_inj_last p.mode.not_mem_toString q.mode.not_mem_toString] at texts
  obtain ⟨front, modes⟩ := texts
  have bars (ranges : List KeyRange) : '|' ∉ KeyRange.text ranges :=
    KeyRange.not_mem_text rfl (by decide) (by decide) ranges
  obtain ⟨names, ranges⟩ := (append_cons_inj_last (bars p.ranges) (bars q.ranges)).mp front
  obtain ⟨topics, ids⟩ := here.fullName_injective there (String.toList_inj.mp names)
  have spans := KeyRange.text_injective ranges
  have shares := ShareMode.toString_injective (String.toList_inj.mp modes)
  cases p
  cases q
  simp_all

end Partition

namespace Selection

variable {ranges : List KeyRange} {mode : ShareMode}
  {entries : List (String × Option (OrderedSet Int32))} {found all : OrderedSet Partition}
  {t : Dialogue.Transcript AdminQuestion.Reply} {p : Partition}

theorem described_of_metadata {topic : String} {described : TopicMetadata}
    (yields : (metadata topic).Yields t (.ok (some described))) :
    ⟨.metadata topic, .ok described⟩ ∈ t := by
  obtain ⟨reply, rest, rfl, ends⟩ := Dialogue.yields_ask.mp yields
  cases reply with
  | ok answer =>
      cases ends
      exact List.mem_cons_self
  | error cause => cases cause <;> cases ends

/-- A partition is found because some request and the description of its topic ask for it. -/
theorem of_mem_collect (yields : (collect ranges mode entries found).Yields t (.ok all))
    (member : p ∈ all) : p ∈ found ∨ ∃ topic indexes described, (topic, indexes) ∈ entries ∧
      ⟨.metadata topic, .ok described⟩ ∈ t ∧ p ∈ partitionsOf described ranges mode indexes := by
  induction entries generalizing found t with
  | nil =>
      cases (Dialogue.yields_done.mp yields).2
      exact .inl member
  | cons entry rest ih =>
      obtain ⟨answer, asked, later, rfl, first, next⟩ := Dialogue.yields_bind.mp yields
      cases answer with
      | error failure => exact nomatch (Dialogue.yields_done.mp next).2
      | ok answer =>
          cases answer with
          | none =>
              refine (ih next).imp_right ?_
              rintro ⟨topic, indexes, described, listed, replied, made⟩
              exact ⟨topic, indexes, described, .tail _ listed,
                List.mem_append_right asked replied, made⟩
          | some described =>
              rcases ih next with old | ⟨topic, indexes, other, listed, replied, made⟩
              · rcases OrderedSet.mem_union.mp old with older | made
                · exact .inl older
                · have replied := List.mem_append_left later (described_of_metadata first)
                  exact .inr ⟨entry.1, entry.2, described, List.mem_cons_self, replied,
                    OrderedSet.mem_ofList.mp made⟩
              · exact .inr ⟨topic, indexes, other, .tail _ listed,
                  List.mem_append_right asked replied, made⟩

/-- Of named topics that are described under their names, all partitions are addressable. -/
theorem addressable_of_partitions {names : List String} {layout : KeyLayout} {parallelism : UInt32}
    (yields : ((ofNames names).partitions layout parallelism).Yields t (.ok found))
    (named : ∀ topic described, ⟨.metadata topic, .ok described⟩ ∈ t → described.name = topic) :
    ∀ p ∈ found, p.Addressable := by
  intro p member
  have proper := Wanted.proper_ofNames (names.map TopicName.complete)
  rcases of_mem_collect yields member with none | ⟨topic, indexes, described, listed, asked, made⟩
  · exact nomatch none
  · obtain ⟨topics, wants, has⟩ := of_mem_partitionsOf made
    have wanted := (OrderedMap.get?_eq_some_iff _ _).mpr listed
    cases indexes with
    | none =>
        have whole := proper.whole topic wanted
        have same : p.topic = TopicName.complete topic := by
          rw [topics, named topic described asked]
        refine ⟨?_, fun _ => ?_⟩
        · rcases has rfl with ⟨low, _⟩ | ⟨_, only⟩
          · omega
          · rw [only]
            decide
        · rw [same, TopicName.parent_complete, whole]
    | some few =>
        have low := proper.single topic few wanted p.id (wants few rfl)
        refine ⟨by omega, fun whole => ?_⟩
        rw [whole] at low
        exact absurd low (by decide)

end Selection

namespace Partition

/-- Addressable partitions are known by their texts, and whatever is found for named topics is
addressable. -/
theorem text_identifies :
    (∀ p q : Partition, p.Addressable → q.Addressable → p.toString = q.toString →
      p.topic = q.topic ∧ p.id = q.id ∧ p.ranges = q.ranges ∧ p.mode = q.mode) ∧
    ∀ (names : List String) (layout : KeyLayout) (parallelism : UInt32)
      (t : Dialogue.Transcript AdminQuestion.Reply) (found : OrderedSet Partition),
      ((Selection.ofNames names).partitions layout parallelism).Yields t (.ok found) →
      (∀ topic described, ⟨.metadata topic, .ok described⟩ ∈ t → described.name = topic) →
      ∀ p ∈ found, p.Addressable := by
  constructor
  · intro p q here there same
    cases here.eq_of_toString there same
    exact ⟨rfl, rfl, rfl, rfl⟩
  · intro names layout parallelism t found yields named
    exact Selection.addressable_of_partitions yields named

-- a topic without partitions that is named like a partition is taken for it
example :
    (⟨"persistent://public/default/t-partition-0", -1, [.full], .split⟩ : Partition).toString =
      (⟨"persistent://public/default/t", 0, [.full], .split⟩ : Partition).toString := by decide

end Partition

namespace Sample

/-- There is no topic but one of three partitions. -/
def threefold : (question : AdminQuestion) → question.Reply
  | .metadata topic =>
    if topic = "persistent://public/default/t" then .ok ⟨topic, 3⟩ else .error (.notFound topic)
  | .topics _ => .ok []
  | .lastMessageId _ => .ok .earliest

/-- The last of the three, with all keys. -/
def third : Partition := ⟨"persistent://public/default/t", 2, [.full], .split⟩

end Sample

theorem Partition.text_identifies_sample : ∃ t found,
    ((Selection.ofNames ["t-partition-2", "u"]).partitions .whole 1).Yields t (.ok found) ∧
      (∀ topic described, ⟨.metadata topic, .ok described⟩ ∈ t → described.name = topic) ∧
      Sample.third ∈ found ∧ (∀ p ∈ found, p.Addressable) ∧
      (Partition.of "t" 2 [.full] .split).toString = Sample.third.toString ∧
      (Partition.of "t" 2 [.full] .split).topic = Sample.third.topic := by
  obtain ⟨identifies, addressable⟩ := Partition.text_identifies
  obtain ⟨t, yields, replies⟩ := Dialogue.yields_against Sample.threefold
    ((Selection.ofNames ["t-partition-2", "u"]).partitions .whole 1)
  have result : ((Selection.ofNames ["t-partition-2", "u"]).partitions .whole 1).against
      Sample.threefold = .ok (.ofList [Sample.third]) := by
    decide +kernel
  rw [result] at yields
  have named : ∀ topic described, ⟨.metadata topic, .ok described⟩ ∈ t →
      described.name = topic := by
    intro topic described replied
    have reply := replies _ replied
    dsimp only [Sample.threefold] at reply
    split at reply
    · cases reply
      rfl
    · exact nomatch reply
  have each := addressable _ _ _ t _ yields named
  have found : Sample.third ∈ OrderedSet.ofList [Sample.third] :=
    OrderedSet.mem_ofList.mpr List.mem_cons_self
  have made : (Partition.of "t" 2 [.full] .split).Addressable :=
    ⟨by decide, fun whole => absurd whole (by decide)⟩
  have same : (Partition.of "t" 2 [.full] .split).toString = Sample.third.toString := by
    decide +kernel
  exact ⟨t, _, yields, named, found, each, same, (identifies _ _ made (each _ found) same).1⟩

end TopicFeed
