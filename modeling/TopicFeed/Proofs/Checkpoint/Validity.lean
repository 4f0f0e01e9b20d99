import Mathlib.Logic.Basic
import TopicFeed.Proofs.Checkpoint.Upgrade
/-! What decoding lets in. Beside each format that holds ranges stands an outline of it, which takes
any two numbers for the bounds of a range. A checkpoint can be read exactly if its outline can and
all bounds in it delimit ranges; the ranges of the value are then those that were written. -/
namespace TopicFeed
namespace KeyRange

/-- Two numbers delimit a range. -/
def Delimits (bounds : Nat × Nat) : Prop := bounds.1 < bounds.2 ∧ bounds.2 ≤ 65536

instance (bounds : Nat × Nat) : Decidable (Delimits bounds) :=
  inferInstanceAs (Decidable (_ ∧ _))

def bounds (r : KeyRange) : Nat × Nat := (r.start, r.stop)

theorem delimits_bounds (r : KeyRange) : Delimits r.bounds := ⟨r.start_lt_stop, r.stop_le⟩

/-- Ranges are those that were written, in whatever order and however often. -/
def Written (ranges : List KeyRange) (written : List (Nat × Nat)) : Prop :=
  ∀ b, b ∈ written ↔ ∃ r ∈ ranges, r.bounds = b

variable {ranges ranges' : List KeyRange} {written written' : List (Nat × Nat)}

theorem Written.append (first : Written ranges written) (second : Written ranges' written') :
    Written (ranges ++ ranges') (written ++ written') := by
  intro b
  rw [List.mem_append, first b, second b]
  simp only [List.mem_append, or_and_right, exists_or]

theorem Written.congr (same : Written ranges written) (held : ∀ r, r ∈ ranges' ↔ r ∈ ranges)
    (carried : ∀ b, b ∈ written' ↔ b ∈ written) : Written ranges' written' := by
  intro b
  rw [carried, same b]
  simp only [held]

theorem Written.delimits (same : Written ranges written) : ∀ b ∈ written, Delimits b := by
  intro b member
  obtain ⟨r, _, rfl⟩ := (same b).mp member
  exact r.delimits_bounds

/-- By start, then by end. -/
theorem compare_eq_lt_iff {a b : KeyRange} :
    compare a b = .lt ↔ a.start < b.start ∨ a.start = b.start ∧ a.stop < b.stop := by
  change compareLex (compareOn start) (compareOn stop) a b = .lt ↔ _
  simp only [compareLex, compareOn, Ordering.then_eq_lt, Nat.compare_eq_lt, Nat.compare_eq_eq]

end KeyRange

open KeyRange

namespace Format

variable {α β γ δ : Type}

/-- A format reads what its outline reads, as long as all bounds in it delimit ranges. -/
structure Checks (f : Format β) (outline : Format α) (held : β → List KeyRange)
    (carried : α → List (Nat × Nat)) : Prop where
  reads : ∀ ⦃bytes v rest⦄, f.decode bytes = .ok (v, rest) →
    ∃ a, outline.decode bytes = .ok (a, rest) ∧ Written (held v) (carried a)
  accepts : ∀ ⦃bytes a rest⦄, outline.decode bytes = .ok (a, rest) →
    (∀ b ∈ carried a, Delimits b) → ∃ v, f.decode bytes = .ok (v, rest)

/-- What holds no ranges needs no check. -/
theorem checks_self (f : Format α) : f.Checks f (fun _ => []) fun _ => [] where
  reads _ v _ read := ⟨v, read, fun b => by simp⟩
  accepts _ a _ read _ := ⟨a, read⟩

variable {f : Format β} {outline : Format α} {held : β → List KeyRange}
  {carried : α → List (Nat × Nat)} {g : Format δ} {outline' : Format γ}
  {held' : δ → List KeyRange} {carried' : γ → List (Nat × Nat)}

theorem pair_checks (first : f.Checks outline held carried)
    (second : g.Checks outline' held' carried') :
    (pair f g).Checks (pair outline outline') (fun v => held v.1 ++ held' v.2)
      fun a => carried a.1 ++ carried' a.2 where
  reads bytes v rest read := by
    obtain ⟨middle, read₁, read₂⟩ := pair_eq_ok_iff.mp read
    obtain ⟨a, found, same⟩ := first.reads read₁
    obtain ⟨a', found', same'⟩ := second.reads read₂
    exact ⟨(a, a'), pair_eq_ok_iff.mpr ⟨middle, found, found'⟩, same.append same'⟩
  accepts bytes a rest read valid := by
    obtain ⟨middle, read₁, read₂⟩ := pair_eq_ok_iff.mp read
    obtain ⟨valid₁, valid₂⟩ := List.forall_mem_append.mp valid
    obtain ⟨v, found⟩ := first.accepts read₁ valid₁
    obtain ⟨v', found'⟩ := second.accepts read₂ valid₂
    exact ⟨(v, v'), pair_eq_ok_iff.mpr ⟨middle, found, found'⟩⟩

/-- A format of values made of others holds the ranges of those, under whatever names. -/
theorem map_checks {make : β → δ} {parts : δ → β} {carried' : α → List (Nat × Nat)}
    (inner : f.Checks outline held carried) (holds : ∀ v r, r ∈ held' (make v) ↔ r ∈ held v)
    (carries : ∀ a b, b ∈ carried' a ↔ b ∈ carried a) :
    (f.map make parts).Checks outline held' carried' where
  reads bytes v rest read := by
    obtain ⟨v, found, rfl⟩ := map_eq_ok_iff.mp read
    obtain ⟨a, outlined, same⟩ := inner.reads found
    exact ⟨a, outlined, same.congr (holds v) (carries a)⟩
  accepts bytes a rest read valid := by
    obtain ⟨v, found⟩ := inner.accepts read fun b member => valid b ((carries a b).mpr member)
    exact ⟨make v, map_eq_ok_iff.mpr ⟨v, found, rfl⟩⟩

theorem Checks.readMany_reads (each : f.Checks outline held carried) {n : Nat}
    {bytes rest : List UInt8} {l : List β} (many : readMany f n bytes = .ok (l, rest)) :
    ∃ as, readMany outline n bytes = .ok (as, rest) ∧
      Written (l.flatMap held) (as.flatMap carried) := by
  induction n generalizing bytes l with
  | zero =>
      cases many
      exact ⟨[], rfl, fun b => by simp⟩
  | succ n ih =>
      obtain ⟨v, vs, middle, rfl, here, later⟩ := readMany_succ_eq_ok_iff.mp many
      obtain ⟨a, found, same⟩ := each.reads here
      obtain ⟨as, more, others⟩ := ih later
      exact ⟨a :: as, readMany_succ_eq_ok_iff.mpr ⟨a, as, middle, rfl, found, more⟩,
        same.append others⟩

theorem Checks.readMany_accepts (each : f.Checks outline held carried) {n : Nat}
    {bytes rest : List UInt8} {l : List α} (many : readMany outline n bytes = .ok (l, rest))
    (valid : ∀ b ∈ l.flatMap carried, Delimits b) : ∃ vs, readMany f n bytes = .ok (vs, rest) := by
  induction n generalizing bytes l with
  | zero =>
      cases many
      exact ⟨[], rfl⟩
  | succ n ih =>
      obtain ⟨a, as, middle, rfl, here, later⟩ := readMany_succ_eq_ok_iff.mp many
      rw [List.flatMap_cons] at valid
      obtain ⟨first, others⟩ := List.forall_mem_append.mp valid
      obtain ⟨v, found⟩ := each.accepts here first
      obtain ⟨vs, more⟩ := ih later others
      exact ⟨v :: vs, readMany_succ_eq_ok_iff.mpr ⟨v, vs, middle, rfl, found, more⟩⟩

theorem list_checks (each : f.Checks outline held carried) :
    (list f).Checks (list outline) (List.flatMap held) (List.flatMap carried) where
  reads bytes l rest read := by
    obtain ⟨n, middle, number, many⟩ := list_eq_ok_iff.mp read
    obtain ⟨as, found, same⟩ := each.readMany_reads many
    exact ⟨as, list_eq_ok_iff.mpr ⟨n, middle, number, found⟩, same⟩
  accepts bytes l rest read valid := by
    obtain ⟨n, middle, number, many⟩ := list_eq_ok_iff.mp read
    obtain ⟨vs, found⟩ := each.readMany_accepts many valid
    exact ⟨vs, list_eq_ok_iff.mpr ⟨n, middle, number, found⟩⟩

end Format

open Format

/-! The outlines. They differ from the formats in how a range is read, and in that the parts of a
value are left as they are. -/
namespace Outline

open Layout (shareMode messageId position stopCursor)

abbrev PartitionParts := String × Int32 × List (Nat × Nat) × ShareMode

abbrev SplitParts := PartitionParts × Position × StopCursor × Option MessageId

abbrev StateParts := List PartitionParts × List SplitParts × List String

abbrev LegacyPartitionParts := String × Int32 × List (Nat × Nat)

abbrev LegacySplitParts := LegacyPartitionParts × StopCursor × Option MessageId

abbrev LegacyStateParts := List LegacyPartitionParts × List LegacySplitParts

def range : Format (Nat × Nat) := pair (word 32) (word 32)

def partition : Format PartitionParts := pair text (pair int32 (pair (list range) shareMode))

def split : Format SplitParts := pair partition (pair position (pair stopCursor (option messageId)))

def state : Format StateParts := pair (list partition) (pair (list split) (list text))

def legacyPartition : Format LegacyPartitionParts := pair text (pair int32 (list range))

def legacySplit : Format LegacySplitParts :=
  pair legacyPartition (pair stopCursor (option messageId))

def legacyState : Format LegacyStateParts := pair (list legacyPartition) (list legacySplit)

def partitionBounds (a : PartitionParts) : List (Nat × Nat) := a.2.2.1

def splitBounds (a : SplitParts) : List (Nat × Nat) := partitionBounds a.1

def stateBounds (a : StateParts) : List (Nat × Nat) :=
  a.1.flatMap partitionBounds ++ a.2.1.flatMap splitBounds

def legacyPartitionBounds (a : LegacyPartitionParts) : List (Nat × Nat) := a.2.2

def legacySplitBounds (a : LegacySplitParts) : List (Nat × Nat) := legacyPartitionBounds a.1

def legacyStateBounds (a : LegacyStateParts) : List (Nat × Nat) :=
  a.1.flatMap legacyPartitionBounds ++ a.2.flatMap legacySplitBounds

end Outline

/-- The partitions in a state, those discovered and those of its splits. -/
def EnumeratorState.partitions (s : EnumeratorState) : List Partition :=
  s.appended.toList ++ s.pending.map Split.partition

/-- The ranges in a state before it is upgraded. -/
def LegacyState.ranges (s : LegacyState) : List KeyRange :=
  s.appended.flatMap LegacyPartition.ranges ++ s.pending.flatMap fun split => split.partition.ranges

namespace Layout

theorem keyRange_checks : keyRange.Checks Outline.range (fun r => [r]) fun b => [b] where
  reads bytes r rest read := by
    obtain ⟨⟨start, stop⟩, found, made⟩ := refine_eq_ok_iff.mp read
    split at made
    · cases made
      refine ⟨(start, stop), found, fun other => ?_⟩
      simp [bounds, eq_comm]
    · cases made
  accepts bytes b rest read valid := by
    have delimits : b.1 < b.2 ∧ b.2 ≤ keyCount := valid b (List.mem_singleton_self b)
    exact ⟨_, refine_eq_ok_iff.mpr ⟨b, read, dif_pos delimits⟩⟩

theorem partition_checks :
    partition.Checks Outline.partition Partition.ranges Outline.partitionBounds := by
  refine map_checks (pair_checks (checks_self text) (pair_checks (checks_self int32)
    (pair_checks (list_checks keyRange_checks) (checks_self shareMode)))) ?_ ?_
  · simp
  · simp [Outline.partitionBounds]

theorem split_checks :
    split.Checks Outline.split (fun s => s.partition.ranges) Outline.splitBounds := by
  refine map_checks (pair_checks partition_checks (pair_checks (checks_self position)
    (pair_checks (checks_self stopCursor) (checks_self (option messageId))))) ?_ ?_
  · simp
  · simp [Outline.splitBounds]

theorem state_checks : state.Checks Outline.state
    (fun s => s.partitions.flatMap Partition.ranges) Outline.stateBounds := by
  refine map_checks (pair_checks (list_checks partition_checks)
    (pair_checks (list_checks split_checks) (checks_self (list text)))) ?_ ?_
  · intro v r
    have held : ∀ p, p ∈ (OrderedSet.ofList v.1).toList ↔ p ∈ v.1 := fun p =>
      OrderedSet.mem_ofList
    simp only [EnumeratorState.partitions, List.flatMap_append, List.flatMap_map, List.mem_append,
      List.mem_flatMap, held, List.append_nil]
  · simp [Outline.stateBounds]

theorem legacyPartition_checks : legacyPartition.Checks Outline.legacyPartition
    LegacyPartition.ranges Outline.legacyPartitionBounds := by
  refine map_checks (pair_checks (checks_self text) (pair_checks (checks_self int32)
    (list_checks keyRange_checks))) ?_ ?_
  · simp
  · simp [Outline.legacyPartitionBounds]

theorem legacySplit_checks : legacySplit.Checks Outline.legacySplit
    (fun s => s.partition.ranges) Outline.legacySplitBounds := by
  refine map_checks (pair_checks legacyPartition_checks
    (pair_checks (checks_self stopCursor) (checks_self (option messageId)))) ?_ ?_
  · simp
  · simp [Outline.legacySplitBounds]

theorem legacyState_checks :
    legacyState.Checks Outline.legacyState LegacyState.ranges Outline.legacyStateBounds := by
  refine map_checks (pair_checks (list_checks legacyPartition_checks)
    (list_checks legacySplit_checks)) ?_ ?_
  · simp [LegacyState.ranges]
  · simp [Outline.legacyStateBounds]

end Layout

/-- A partition as it is made of a topic and ranges that are given in some way. -/
structure Partition.Canonical (p : Partition) : Prop where
  topic : TopicName.complete p.topic = p.topic
  ranges : p.ranges.Pairwise fun a b => a.start < b.start ∨ a.start = b.start ∧ a.stop < b.stop

theorem Partition.canonical_of (topic : String) (id : Int32) (ranges : List KeyRange)
    (mode : ShareMode) : (Partition.of topic id ranges mode).Canonical where
  topic := TopicName.complete_complete topic
  ranges := (OrderedSet.ofList ranges).ascending.imp fun less => KeyRange.compare_eq_lt_iff.mp less

/-- What an upgrade keeps: the ranges, in whatever order and however often. -/
theorem LegacyPartition.mem_ranges_upgrade {p : LegacyPartition} {r : KeyRange} :
    r ∈ p.upgrade.ranges ↔ r ∈ p.ranges := OrderedSet.mem_ofList

theorem LegacyState.mem_ranges_upgrade {s : LegacyState} {r : KeyRange} :
    r ∈ s.upgrade.partitions.flatMap Partition.ranges ↔ r ∈ s.ranges := by
  have held : ∀ p, p ∈ s.upgrade.appended.toList ↔ ∃ q ∈ s.appended, q.upgrade = p :=
    fun p => mem_appended_upgrade
  simp only [EnumeratorState.partitions, List.mem_flatMap, List.mem_append, held, or_and_right,
    exists_or]
  simp only [LegacyState.upgrade, LegacySplit.upgrade, LegacyState.ranges, List.map_map,
    List.mem_append, List.mem_flatMap, List.mem_map, Function.comp_apply,
    exists_exists_and_eq_and, LegacyPartition.mem_ranges_upgrade]

theorem LegacyState.canonical_of_mem_upgrade {s : LegacyState} {p : Partition}
    (member : p ∈ s.upgrade.partitions) : p.Canonical := by
  rcases List.mem_append.mp member with known | waiting
  · obtain ⟨old, _, rfl⟩ := mem_appended_upgrade.mp known
    exact Partition.canonical_of _ _ _ _
  · rw [LegacyState.upgrade, List.map_map] at waiting
    obtain ⟨old, _, rfl⟩ := List.mem_map.mp waiting
    exact Partition.canonical_of _ _ _ _

namespace Checkpoint

variable {α β γ δ : Type}

/-- The bounds that stand in a checkpoint, found in the outline of its version. -/
def Carries (older : Format β) (olderBounds : β → List (Nat × Nat)) (newer : Format γ)
    (newerBounds : γ → List (Nat × Nat)) (bytes : List UInt8) (found : List (Nat × Nat)) : Prop :=
  4 ≤ bytes.length ∧
    ((bigEndian (bytes.take 4) = 1 ∧
        ∃ a rest, older.decode (bytes.drop 4) = .ok (a, rest) ∧ olderBounds a = found) ∨
      bigEndian (bytes.take 4) = 2 ∧
        ∃ a rest, newer.decode (bytes.drop 4) = .ok (a, rest) ∧ newerBounds a = found)

/-- What is known of the result of decoding, whatever the bytes. -/
structure Screens (decode : List UInt8 → Except Failure α) (partitions : α → List Partition)
    (carries : List (Nat × Nat) → Prop) (bytes : List UInt8) : Prop where
  /-- The version is unknown exactly if there is one and it is neither of the two. -/
  unknown : ∀ version, decode bytes = .error (.unknownVersion version) ↔
    4 ≤ bytes.length ∧ version = bigEndian (bytes.take 4) ∧ version ≠ 1 ∧ version ≠ 2
  /-- All other bytes make a value or are corrupted. -/
  other : ¬ (4 ≤ bytes.length ∧ bigEndian (bytes.take 4) ≠ 1 ∧ bigEndian (bytes.take 4) ≠ 2) →
    (∃ a, decode bytes = .ok a) ∨ ∃ fault, decode bytes = .error (.corruptedCheckpoint fault)
  /-- There is a value exactly if all bounds in the bytes delimit ranges. -/
  readable : (∃ a, decode bytes = .ok a) ↔
    ∃ found, carries found ∧ ∀ b ∈ found, b.1 < b.2 ∧ b.2 ≤ 65536
  /-- These are the ranges of the value. -/
  ranges : ∀ a, decode bytes = .ok a → ∃ found, carries found ∧
    ∀ b, b ∈ found ↔ ∃ p ∈ partitions a, ∃ r ∈ p.ranges, (r.start, r.stop) = b
  /-- So each range has a greatest hash, which is the one before its end. -/
  inclusive : ∀ a, decode bytes = .ok a → ∀ p ∈ partitions a, ∀ r ∈ p.ranges,
    r.start < r.stop ∧ r.stop ≤ 65536 ∧ r.inclusive.1 ≤ r.inclusive.2 ∧
      r.inclusive.2 + 1 = r.stop
  /-- The partitions of the version before have complete names and ranges in order. -/
  canonical : ∀ a, decode bytes = .ok a → bigEndian (bytes.take 4) = 1 →
    ∀ p ∈ partitions a, p.Canonical

section

variable {legacy : Format β} {upgrade : β → α} {current : Format α} {older : Format γ}
  {newer : Format δ} {heldOld : β → List KeyRange} {boundsOld : γ → List (Nat × Nat)}
  {held : α → List KeyRange} {bounds : δ → List (Nat × Nat)} {bytes : List UInt8}

/-- Ranges are checked in both versions, and an upgrade keeps them. -/
theorem decodeBlob_written (checksOld : legacy.Checks older heldOld boundsOld)
    (checks : current.Checks newer held bounds) (kept : ∀ v r, r ∈ held (upgrade v) ↔ r ∈ heldOld v)
    {a : α} (read : decodeBlob legacy upgrade current bytes = .ok a) :
    ∃ found, Carries older boundsOld newer bounds bytes found ∧ Written (held a) found := by
  obtain ⟨long, ⟨version, v, rest, body, rfl⟩ | ⟨version, rest, body⟩⟩ :=
    decodeBlob_eq_ok_iff.mp read
  · obtain ⟨b, outline, same⟩ := checksOld.reads body
    exact ⟨boundsOld b, ⟨long, .inl ⟨version, b, rest, outline, rfl⟩⟩,
      same.congr (kept v) fun _ => Iff.rfl⟩
  · obtain ⟨b, outline, same⟩ := checks.reads body
    exact ⟨bounds b, ⟨long, .inr ⟨version, b, rest, outline, rfl⟩⟩, same⟩

theorem decodeBlob_accepts (checksOld : legacy.Checks older heldOld boundsOld)
    (checks : current.Checks newer held bounds) {found : List (Nat × Nat)}
    (carried : Carries older boundsOld newer bounds bytes found)
    (valid : ∀ b ∈ found, Delimits b) : ∃ a, decodeBlob legacy upgrade current bytes = .ok a := by
  obtain ⟨long, ⟨version, b, rest, outline, rfl⟩ | ⟨version, b, rest, outline, rfl⟩⟩ := carried
  · obtain ⟨v, body⟩ := checksOld.accepts outline valid
    exact ⟨upgrade v, decodeBlob_eq_ok_iff.mpr ⟨long, .inl ⟨version, v, rest, body, rfl⟩⟩⟩
  · obtain ⟨v, body⟩ := checks.accepts outline valid
    exact ⟨v, decodeBlob_eq_ok_iff.mpr ⟨long, .inr ⟨version, rest, body⟩⟩⟩

theorem decodeBlob_screens {partitions : α → List Partition}
    (checksOld : legacy.Checks older heldOld boundsOld)
    (checks : current.Checks newer (fun a => (partitions a).flatMap Partition.ranges) bounds)
    (kept : ∀ v r, r ∈ (partitions (upgrade v)).flatMap Partition.ranges ↔ r ∈ heldOld v)
    (canonical : ∀ v, ∀ p ∈ partitions (upgrade v), p.Canonical) :
    Screens (decodeBlob legacy upgrade current) partitions
      (Carries older boundsOld newer bounds bytes) bytes where
  unknown version := decodeBlob_eq_unknownVersion_iff
  other known := by
    cases read : decodeBlob legacy upgrade current bytes with
    | ok a => exact .inl ⟨a, rfl⟩
    | error failure =>
        rcases decodeBlob_eq_error read with ⟨version, rfl⟩ | ⟨fault, rfl⟩
        · obtain ⟨long, rfl, strange⟩ := decodeBlob_eq_unknownVersion_iff.mp read
          exact absurd ⟨long, strange⟩ known
        · exact .inr ⟨fault, rfl⟩
  readable := by
    constructor
    · rintro ⟨a, read⟩
      obtain ⟨found, carried, same⟩ := decodeBlob_written checksOld checks kept read
      exact ⟨found, carried, same.delimits⟩
    · rintro ⟨found, carried, valid⟩
      exact decodeBlob_accepts checksOld checks carried valid
  ranges a read := by
    obtain ⟨found, carried, same⟩ := decodeBlob_written checksOld checks kept read
    refine ⟨found, carried, fun b => ?_⟩
    rw [same b]
    simp only [List.mem_flatMap]
    constructor
    · rintro ⟨r, ⟨p, member, inside⟩, rfl⟩
      exact ⟨p, member, r, inside, rfl⟩
    · rintro ⟨p, member, r, inside, rfl⟩
      exact ⟨r, ⟨p, member, inside⟩, rfl⟩
  inclusive a read p member r inside := by
    have below := r.start_lt_stop
    refine ⟨below, r.stop_le, ?_, ?_⟩ <;> simp only [KeyRange.inclusive] <;> omega
  canonical a read version p member := by
    obtain ⟨_, ⟨_, v, rest, body, rfl⟩ | ⟨newer, _⟩⟩ := decodeBlob_eq_ok_iff.mp read
    · exact canonical v p member
    · exact nomatch version.symm.trans newer

end

/-- No bytes decode to an invalid range, in splits or in states. -/
theorem screens (bytes : List UInt8) :
    Screens decodeSplit (fun s => [s.partition])
        (Carries Outline.legacySplit Outline.legacySplitBounds Outline.split Outline.splitBounds
          bytes) bytes ∧
      Screens decodeState EnumeratorState.partitions
        (Carries Outline.legacyState Outline.legacyStateBounds Outline.state Outline.stateBounds
          bytes) bytes := by
  constructor
  · apply decodeBlob_screens Layout.legacySplit_checks
    · simpa using Layout.split_checks
    · intro v r
      rw [List.flatMap_singleton]
      exact LegacyPartition.mem_ranges_upgrade
    · rintro v p member
      cases List.mem_singleton.mp member
      exact Partition.canonical_of _ _ _ _
  · exact decodeBlob_screens Layout.legacyState_checks Layout.state_checks
      (fun v r => LegacyState.mem_ranges_upgrade) fun v p => LegacyState.canonical_of_mem_upgrade

end Checkpoint
end TopicFeed
