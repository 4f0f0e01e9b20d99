import TopicFeed.Proofs.Checkpoint.Reading
import TopicFeed.Proofs.Checkpoint.RoundTrip
import TopicFeed.Proofs.Collection
import TopicFeed.Proofs.Topic.Name
/-! Checkpoints of the version before the current one. They are read as what they are upgraded to,
which is also what a checkpoint of the current version would hold. Two of the old partitions are
upgraded to the same one exactly if they differ in no more than how they are written. -/
namespace TopicFeed
namespace LegacyPartition

/-- No text and no list in memory has as many bytes as there are positive signed words. That leaves
room for what completing a name adds. -/
structure Sized (p : LegacyPartition) : Prop where
  topic : p.topic.utf8ByteSize < 2 ^ 63
  ranges : p.ranges.length < 2 ^ 63

instance (p : LegacyPartition) : Decidable p.Sized :=
  decidable_of_iff (p.topic.utf8ByteSize < 2 ^ 63 ∧ p.ranges.length < 2 ^ 63)
    ⟨fun ⟨topic, ranges⟩ => ⟨topic, ranges⟩, fun ⟨topic, ranges⟩ => ⟨topic, ranges⟩⟩

/-- Partitions of one topic and with the same ranges. The topic may be written in short, the ranges
in any order and more than once. -/
structure Same (p q : LegacyPartition) : Prop where
  topic : TopicName.complete p.topic = TopicName.complete q.topic
  id : p.id = q.id
  ranges : ∀ r, r ∈ p.ranges ↔ r ∈ q.ranges

variable {p q : LegacyPartition}

theorem Sized.upgrade (sized : p.Sized) : p.upgrade.Sized where
  topic := by
    have longer := TopicName.utf8ByteSize_complete_le p.topic
    have short := sized.topic
    change (TopicName.complete p.topic).utf8ByteSize < 2 ^ 64
    omega
  ranges := by
    have fewer := OrderedSet.length_ofList_le p.ranges
    have few := sized.ranges
    change (OrderedSet.ofList p.ranges).toList.length < 2 ^ 64
    omega

/-- An upgrade forgets how a partition was written, and nothing else. -/
theorem upgrade_eq_upgrade_iff : p.upgrade = q.upgrade ↔ p.Same q := by
  constructor
  · intro same
    obtain ⟨topic, id, ranges, _⟩ := Partition.mk.inj same
    exact ⟨topic, id, OrderedSet.ofList_eq_ofList_iff.mp (OrderedSet.ext ranges)⟩
  · rintro ⟨topic, id, ranges⟩
    rw [upgrade, upgrade, Partition.of, Partition.of, topic, id,
      OrderedSet.ofList_eq_ofList_iff.mpr ranges]

theorem same_complete (ranges : ∀ r, r ∈ p.ranges ↔ r ∈ q.ranges)
    (topic : q.topic = TopicName.complete p.topic) (id : p.id = q.id) : p.Same q where
  topic := by rw [topic, TopicName.complete_complete]
  id := id
  ranges := ranges

end LegacyPartition

/-- The sizes of a state before it is upgraded. -/
structure LegacyState.Sized (s : LegacyState) : Prop where
  appended : s.appended.length < 2 ^ 63
  partitions : ∀ p ∈ s.appended, p.Sized
  pending : s.pending.length < 2 ^ 63
  splits : ∀ split ∈ s.pending, split.partition.Sized

instance (s : LegacyState) : Decidable s.Sized :=
  decidable_of_iff
    ((s.appended.length < 2 ^ 63 ∧ ∀ p ∈ s.appended, p.Sized) ∧
      s.pending.length < 2 ^ 63 ∧ ∀ split ∈ s.pending, split.partition.Sized)
    ⟨fun ⟨⟨appended, partitions⟩, ⟨pending, splits⟩⟩ => ⟨appended, partitions, pending, splits⟩,
      fun sized => ⟨⟨sized.appended, sized.partitions⟩, ⟨sized.pending, sized.splits⟩⟩⟩

theorem LegacyState.mem_appended_upgrade {s : LegacyState} {p : Partition} :
    p ∈ s.upgrade.appended ↔ ∃ q ∈ s.appended, q.upgrade = p := by
  rw [LegacyState.upgrade, OrderedSet.mem_ofList, List.mem_map]

theorem LegacyState.Sized.upgrade {s : LegacyState} (sized : s.Sized) : s.upgrade.Sized where
  appended := by
    have fewer := OrderedSet.length_ofList_le (s.appended.map LegacyPartition.upgrade)
    have few := sized.appended
    rw [List.length_map] at fewer
    change (OrderedSet.ofList (s.appended.map LegacyPartition.upgrade)).toList.length < 2 ^ 64
    omega
  partitions p member := by
    obtain ⟨q, known, rfl⟩ := LegacyState.mem_appended_upgrade.mp member
    exact (sized.partitions q known).upgrade
  pending := by
    have few := sized.pending
    rw [LegacyState.upgrade, List.length_map]
    omega
  splits split member := by
    obtain ⟨old, waiting, rfl⟩ := List.mem_map.mp member
    exact (sized.splits old waiting).upgrade
  finished := Nat.two_pow_pos 64
  ids _ member := nomatch member

/-- What a split of the version before stands for. -/
structure LegacySplit.Becomes (old : LegacySplit) (new : Split) : Prop where
  partition : new.partition =
    .of old.partition.topic old.partition.id old.partition.ranges .split
  start : new.startPosition = .earliest
  stop : new.stopCursor = old.stopCursor
  latest : new.latestConsumed = old.latestConsumed

/-- What a state of the version before stands for. -/
structure LegacyState.Becomes (old : LegacyState) (new : EnumeratorState) : Prop where
  appended : ∀ p, p ∈ new.appended ↔ ∃ q ∈ old.appended, .of q.topic q.id q.ranges .split = p
  pending : List.Forall₂ LegacySplit.Becomes old.pending new.pending
  finished : new.finished = ∅

theorem LegacySplit.becomes_upgrade (old : LegacySplit) : old.Becomes old.upgrade :=
  ⟨rfl, rfl, rfl, rfl⟩

theorem LegacyState.becomes_upgrade (old : LegacyState) : old.Becomes old.upgrade where
  appended _ := LegacyState.mem_appended_upgrade
  pending := by
    change List.Forall₂ LegacySplit.Becomes old.pending (old.pending.map LegacySplit.upgrade)
    induction old.pending with
    | nil => exact .nil
    | cons split rest ih => exact .cons split.becomes_upgrade ih
  finished := rfl

open Format

namespace Layout

theorem legacyPartition_roundTrips {p : LegacyPartition} (sized : p.Sized) :
    legacyPartition.RoundTrips p := by
  have topic : p.topic.utf8ByteSize < 2 ^ 64 := Nat.lt_trans sized.topic (by decide)
  have ranges : p.ranges.length < 2 ^ 64 := Nat.lt_trans sized.ranges (by decide)
  apply map_roundTrips rfl
  exact pair_roundTrips (text_roundTrips topic) (pair_roundTrips (int32_roundTrips _)
    (list_roundTrips ranges fun r _ => keyRange_roundTrips r))

theorem legacySplit_roundTrips {s : LegacySplit} (sized : s.partition.Sized) :
    legacySplit.RoundTrips s := by
  apply map_roundTrips rfl
  exact pair_roundTrips (legacyPartition_roundTrips sized)
    (pair_roundTrips (stopCursor_roundTrips _) (latest_roundTrips _))

theorem legacyState_roundTrips {s : LegacyState} (sized : s.Sized) : legacyState.RoundTrips s := by
  have appended : s.appended.length < 2 ^ 64 := Nat.lt_trans sized.appended (by decide)
  have pending : s.pending.length < 2 ^ 64 := Nat.lt_trans sized.pending (by decide)
  apply map_roundTrips rfl
  exact pair_roundTrips
    (list_roundTrips appended fun p member =>
      legacyPartition_roundTrips (sized.partitions p member))
    (list_roundTrips pending fun split member =>
      legacySplit_roundTrips (sized.splits split member))

end Layout

namespace Checkpoint

theorem decodeBlob_blob_legacy {α β : Type} {legacy : Format β} (upgrade : β → α)
    (current : Format α) {b : β} (reads : legacy.RoundTrips b) :
    decodeBlob legacy upgrade current (blob legacyVersion legacy b) = .ok (upgrade b) := by
  rw [blob, decodeBlob_versionBytes (by decide), if_pos rfl, decodeBody_encode reads]
  rfl

/-- A checkpoint of the version before is read as one of the current version is that was made of
what it stands for, and so stays what it is when it is written again. A split that waits is of a
known partition exactly if its partition was among the known ones, however that was written. -/
theorem legacy_upgrade {split : LegacySplit} {state : LegacyState}
    (splitSized : split.partition.Sized) (stateSized : state.Sized) :
    (split.Becomes split.upgrade ∧
      decodeSplit (blob legacyVersion Layout.legacySplit split) =
        decodeSplit (encodeSplit split.upgrade) ∧
      decodeSplit (encodeSplit split.upgrade) = .ok split.upgrade) ∧
    (state.Becomes state.upgrade ∧
      decodeState (blob legacyVersion Layout.legacyState state) =
        decodeState (encodeState state.upgrade) ∧
      decodeState (encodeState state.upgrade) = .ok state.upgrade) ∧
    ∀ old ∈ state.pending, old.upgrade.partition ∈ state.upgrade.appended ↔
      ∃ p ∈ state.appended, p.Same old.partition := by
  have split' : decodeSplit (encodeSplit split.upgrade) = .ok split.upgrade :=
    decodeSplit_encodeSplit splitSized.upgrade
  have state' : decodeState (encodeState state.upgrade) = .ok state.upgrade :=
    decodeState_encodeState stateSized.upgrade
  refine ⟨⟨split.becomes_upgrade, ?_, split'⟩, ⟨state.becomes_upgrade, ?_, state'⟩, ?_⟩
  · exact (decodeBlob_blob_legacy _ _ (Layout.legacySplit_roundTrips splitSized)).trans split'.symm
  · exact (decodeBlob_blob_legacy _ _ (Layout.legacyState_roundTrips stateSized)).trans state'.symm
  · intro old _
    rw [LegacyState.mem_appended_upgrade]
    exact exists_congr fun p => and_congr_right fun _ => LegacyPartition.upgrade_eq_upgrade_iff

end Checkpoint

namespace Sample

def lower : KeyRange := ⟨0, 9, by decide, by decide⟩

def upper : KeyRange := ⟨9, keyCount, by decide, Nat.le_refl _⟩

/-- A partition with its topic in short and with ranges that repeat and stand in no order. -/
def legacyPartition : LegacyPartition := ⟨"t", 0, [upper, lower, upper]⟩

/-- A split of the same partition, which is written in full here. -/
def legacySplit : LegacySplit :=
  ⟨⟨"persistent://public/default/t", 0, [lower, upper]⟩, .never, some .earliest⟩

def legacyState : LegacyState := ⟨[legacyPartition], [legacySplit]⟩

theorem legacyPartition_same : legacyPartition.Same legacySplit.partition := by
  apply LegacyPartition.same_complete
  · intro r
    simp only [legacyPartition, legacySplit, List.mem_cons, List.not_mem_nil, or_false]
    grind
  · decide
  · rfl

end Sample

theorem Checkpoint.legacy_upgrade_sample :
    Sample.legacySplit.partition.Sized ∧ Sample.legacyState.Sized ∧
      Sample.legacySplit ∈ Sample.legacyState.pending ∧
      Sample.legacySplit.partition ∉ Sample.legacyState.appended ∧
      Sample.legacySplit.upgrade.partition ∈ Sample.legacyState.upgrade.appended ∧
      decodeState (blob legacyVersion Layout.legacyState Sample.legacyState) =
        .ok Sample.legacyState.upgrade := by
  have split : Sample.legacySplit.partition.Sized := by decide
  have state : Sample.legacyState.Sized := by decide
  have waits : Sample.legacySplit ∈ Sample.legacyState.pending := by decide
  obtain ⟨_, ⟨_, read, again⟩, known⟩ := legacy_upgrade split state
  have there : Sample.legacySplit.upgrade.partition ∈ Sample.legacyState.upgrade.appended :=
    (known _ waits).mpr ⟨_, List.mem_singleton_self _, Sample.legacyPartition_same⟩
  exact ⟨split, state, waits, by decide, there, read.trans again⟩

end TopicFeed
