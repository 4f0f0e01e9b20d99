import TopicFeed.Proofs.Checkpoint.Faithful
import TopicFeed.Proofs.Checkpoint.Reading
/-! Bytes that are cut off. A format decides on a value by the bytes of the value only, so had a
part of the bytes been enough to read one, the rest of them would be left over when all are read.
Nothing is left over of what was written. -/
namespace TopicFeed
namespace Format

variable {α β : Type}

/-- What has been read stays read when more bytes come. -/
def Stable (f : Format α) : Prop :=
  ∀ ⦃bytes a rest⦄, f.decode bytes = .ok (a, rest) →
    ∀ more, f.decode (bytes ++ more) = .ok (a, rest ++ more)

theorem unit_stable : unit.Stable := by
  intro bytes u rest read more
  cases read
  rfl

theorem pair_stable {f : Format α} {g : Format β} (first : f.Stable) (second : g.Stable) :
    (pair f g).Stable := by
  intro bytes v rest read more
  obtain ⟨middle, read₁, read₂⟩ := pair_eq_ok_iff.mp read
  exact pair_eq_ok_iff.mpr ⟨middle ++ more, first read₁ more, second read₂ more⟩

theorem refine_stable {f : Format α} {make : α → Option β} {parts : β → α} (inner : f.Stable) :
    (f.refine make parts).Stable := by
  intro bytes b rest read more
  obtain ⟨a, found, made⟩ := refine_eq_ok_iff.mp read
  exact refine_eq_ok_iff.mpr ⟨a, inner found more, made⟩

theorem map_stable {f : Format α} {make : α → β} {parts : β → α} (inner : f.Stable) :
    (f.map make parts).Stable :=
  refine_stable inner

theorem readVarint_stable {last left n : Nat} {bytes rest : List UInt8}
    (read : readVarint last left bytes = .ok (n, rest)) (more : List UInt8) :
    readVarint last left (bytes ++ more) = .ok (n, rest ++ more) := by
  induction left generalizing bytes n with
  | zero => cases read
  | succ left ih =>
      cases bytes with
      | nil => cases read
      | cons byte bytes =>
          rw [readVarint] at read
          rw [List.cons_append, readVarint]
          split at read
          · next short =>
            rw [if_pos short]
            split at read
            · cases read
            · next within =>
              cases read
              rw [if_neg within]
          · next long =>
            rw [if_neg long]
            split at read
            · cases read
            · next later =>
              cases read
              rw [ih later]

theorem word_stable (bits : Nat) : (word bits).Stable := fun _ _ _ read more =>
  readVarint_stable read more

theorem bool_stable : bool.Stable := by
  intro bytes b rest read more
  cases bytes with
  | nil => cases read
  | cons byte bytes =>
      simp only [bool, List.cons_append] at read ⊢
      split at read
      · next zero =>
        cases read
        rw [if_pos zero]
      split at read
      · next other one =>
        cases read
        rw [if_neg other, if_pos one]
      · cases read

theorem option_stable {f : Format α} (inner : f.Stable) : (option f).Stable := by
  intro bytes o rest read more
  cases bytes with
  | nil => cases read
  | cons byte bytes =>
      simp only [option, List.cons_append] at read ⊢
      split at read
      · next zero =>
        cases read
        rw [if_pos zero]
      split at read
      · next other one =>
        rw [if_neg other, if_pos one]
        split at read
        · cases read
        · next found =>
          cases read
          rw [inner found more]
      · cases read

theorem readMany_stable {f : Format α} (each : f.Stable) {n : Nat} {bytes rest : List UInt8}
    {l : List α} (read : readMany f n bytes = .ok (l, rest)) (more : List UInt8) :
    readMany f n (bytes ++ more) = .ok (l, rest ++ more) := by
  induction n generalizing bytes l with
  | zero =>
      cases read
      rfl
  | succ n ih =>
      obtain ⟨a, others, middle, rfl, here, later⟩ := readMany_succ_eq_ok_iff.mp read
      exact readMany_succ_eq_ok_iff.mpr
        ⟨a, others, middle ++ more, rfl, each here more, ih later⟩

theorem list_stable {f : Format α} (each : f.Stable) : (list f).Stable := by
  intro bytes l rest read more
  obtain ⟨n, middle, number, many⟩ := list_eq_ok_iff.mp read
  exact list_eq_ok_iff.mpr
    ⟨n, middle ++ more, word_stable 64 number more, readMany_stable each many more⟩

/-- The bytes of a text are all there once there are as many as its number says. -/
theorem text_stable : text.Stable := by
  intro bytes s rest read more
  simp only [text] at read ⊢
  split at read
  · cases read
  next n after number =>
  rw [word_stable 64 number more]
  split at read
  · cases read
  next enough =>
  have within : n ≤ after.length := by
    rw [List.length_take] at enough
    omega
  dsimp only
  rw [List.take_append_of_le_length within, List.drop_append_of_le_length within, if_neg enough]
  split at read
  · cases read
    rfl
  · cases read

theorem cases_stable {alternatives : List (Case α)}
    (each : ∀ c ∈ alternatives, c.format.Stable) : (cases alternatives).Stable := by
  intro bytes a rest read more
  simp only [cases] at read ⊢
  split at read
  · cases read
  next index after number =>
  rw [word_stable 32 number more]
  split at read
  · next c here =>
    dsimp only
    rw [here]
    dsimp only
    rw [Case.decode] at read ⊢
    split at read
    · cases read
    next found =>
    cases read
    rw [each c (List.mem_of_getElem? here) found more]
  · cases read

/-- A part of the bytes of a value makes no value, neither that one nor another. -/
theorem Faithful.decode_cut {f : Format α} {a : α} (faithful : f.Faithful a) (stable : f.Stable)
    {cut : List UInt8} (part : cut <+: f.encode a) (strict : cut ≠ f.encode a) :
    ∃ fault, f.decode cut = .error fault := by
  obtain ⟨missing, whole⟩ := part
  cases read : f.decode cut with
  | error fault => exact ⟨fault, rfl⟩
  | ok found =>
      have all := stable read missing
      rw [whole, ← List.append_nil (f.encode a)] at all
      obtain ⟨_, nothing⟩ := faithful all
      obtain ⟨_, rfl⟩ := List.append_eq_nil_iff.mp nothing
      rw [List.append_nil] at whole
      exact absurd whole strict

end Format

open Format

namespace Layout

theorem keyRange_stable : keyRange.Stable :=
  refine_stable (pair_stable (word_stable 32) (word_stable 32))

theorem shareMode_stable : shareMode.Stable := by
  apply cases_stable
  simp only [List.forall_mem_cons]
  exact ⟨unit_stable, unit_stable, List.forall_mem_nil _⟩

theorem messageId_stable : messageId.Stable :=
  map_stable (pair_stable (map_stable (word_stable 64))
    (pair_stable (map_stable (word_stable 64)) (map_stable (word_stable 32))))

theorem position_stable : position.Stable := by
  apply cases_stable
  simp only [List.forall_mem_cons]
  exact ⟨pair_stable messageId_stable bool_stable, map_stable (word_stable 64),
    List.forall_mem_nil _⟩

theorem stopCursor_stable : stopCursor.Stable := by
  have time : uint64.Stable := map_stable (word_stable 64)
  apply cases_stable
  simp only [List.forall_mem_cons]
  exact ⟨unit_stable, option_stable messageId_stable, messageId_stable, messageId_stable, time,
    time, time, time, List.forall_mem_nil _⟩

theorem partition_stable : partition.Stable :=
  map_stable (pair_stable text_stable (pair_stable (map_stable (word_stable 32))
    (pair_stable (list_stable keyRange_stable) shareMode_stable)))

theorem split_stable : split.Stable :=
  map_stable (pair_stable partition_stable (pair_stable position_stable
    (pair_stable stopCursor_stable (option_stable messageId_stable))))

theorem state_stable : state.Stable :=
  map_stable (pair_stable (list_stable partition_stable)
    (pair_stable (list_stable split_stable) (list_stable text_stable)))

theorem legacyPartition_stable : legacyPartition.Stable :=
  map_stable (pair_stable text_stable (pair_stable (map_stable (word_stable 32))
    (list_stable keyRange_stable)))

theorem legacySplit_stable : legacySplit.Stable :=
  map_stable (pair_stable legacyPartition_stable
    (pair_stable stopCursor_stable (option_stable messageId_stable)))

theorem legacyState_stable : legacyState.Stable :=
  map_stable (pair_stable (list_stable legacyPartition_stable) (list_stable legacySplit_stable))

end Layout

namespace Checkpoint

variable {α β : Type}

/-- Bytes none of whose strict beginnings is taken for a checkpoint. -/
def DetectsTruncation (decode : List UInt8 → Except Failure α) (bytes : List UInt8) : Prop :=
  ∀ cut, cut <+: bytes → cut ≠ bytes → ∃ fault, decode cut = .error (.corruptedCheckpoint fault)

theorem decodeBody_cut {format : Format α} {a : α} (faithful : format.Faithful a)
    (stable : format.Stable) : DetectsTruncation (decodeBody format) (format.encode a) := by
  intro cut part strict
  obtain ⟨fault, failed⟩ := faithful.decode_cut stable part strict
  exact ⟨.body fault, by rw [decodeBody, failed]⟩

/-- A cut falls within the version, or the version is whole and the body is cut. -/
theorem decodeBlob_cut {legacy : Format β} {upgrade : β → α} {current : Format α}
    {version : Nat} {body : List UInt8} {read : List UInt8 → Except Failure α}
    (reads : ∀ cut, decodeBlob legacy upgrade current (versionBytes version ++ cut) = read cut)
    (detects : DetectsTruncation read body) :
    DetectsTruncation (decodeBlob legacy upgrade current) (versionBytes version ++ body) := by
  intro cut part strict
  by_cases long : 4 ≤ cut.length
  · obtain ⟨after, rfl⟩ := List.prefix_of_prefix_length_le (List.prefix_append _ _) part long
    rw [reads]
    apply detects
    · exact (List.prefix_append_right_inj _).mp part
    · exact fun same => strict (congrArg _ same)
  · exact ⟨_, decodeBlob_of_short (Nat.lt_of_not_le long)⟩

theorem decodeBlob_cut_current (legacy : Format β) (upgrade : β → α) {current : Format α} {a : α}
    (faithful : current.Faithful a) (stable : current.Stable) :
    DetectsTruncation (decodeBlob legacy upgrade current) (blob currentVersion current a) := by
  apply decodeBlob_cut
  · exact fun cut => decodeBlob_versionBytes (by decide)
  · exact decodeBody_cut faithful stable

theorem decodeBlob_cut_legacy {legacy : Format β} (upgrade : β → α) (current : Format α) {b : β}
    (faithful : legacy.Faithful b) (stable : legacy.Stable) :
    DetectsTruncation (decodeBlob legacy upgrade current) (blob legacyVersion legacy b) := by
  apply decodeBlob_cut
  · exact fun cut => decodeBlob_versionBytes (by decide)
  · intro cut part strict
    obtain ⟨fault, failed⟩ := decodeBody_cut faithful stable cut part strict
    exact ⟨fault, map_eq_error_iff.mpr failed⟩

/-- A checkpoint that is cut off anywhere is corrupted, of whichever version it is. -/
theorem truncation_detected (split : Split) (state : EnumeratorState) (oldSplit : LegacySplit)
    (oldState : LegacyState) :
    DetectsTruncation decodeSplit (encodeSplit split) ∧
      DetectsTruncation decodeState (encodeState state) ∧
      DetectsTruncation decodeSplit (blob legacyVersion Layout.legacySplit oldSplit) ∧
      DetectsTruncation decodeState (blob legacyVersion Layout.legacyState oldState) :=
  ⟨decodeBlob_cut_current _ _ (Layout.split_faithful split) Layout.split_stable,
    decodeBlob_cut_current _ _ (Layout.state_faithful state) Layout.state_stable,
    decodeBlob_cut_legacy _ _ (Layout.legacySplit_faithful oldSplit) Layout.legacySplit_stable,
    decodeBlob_cut_legacy _ _ (Layout.legacyState_faithful oldState) Layout.legacyState_stable⟩

end Checkpoint
end TopicFeed
