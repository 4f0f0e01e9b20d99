import Mathlib.Algebra.Group.Int.Defs
import Mathlib.Algebra.Group.Nat.Defs
import TopicFeed.Proofs.Checkpoint.Reading
/-! What is written is read back. Each format reads its own bytes and leaves those that follow, so
formats made of parts do so because their parts do. -/
namespace TopicFeed
namespace Format

variable {α β : Type}

/-- The bytes of a value are read back, whatever follows them. -/
def RoundTrips (f : Format α) (a : α) : Prop :=
  ∀ rest, f.decode (f.encode a ++ rest) = .ok (a, rest)

theorem unit_roundTrips (u : Unit) : unit.RoundTrips u := fun _ => rfl

theorem pair_roundTrips {f : Format α} {g : Format β} {v : α × β} (first : f.RoundTrips v.1)
    (second : g.RoundTrips v.2) : (pair f g).RoundTrips v := by
  intro rest
  simp only [pair]
  rw [List.append_assoc, first]
  dsimp only
  rw [second]

theorem refine_roundTrips {f : Format α} {make : α → Option β} {parts : β → α} {b : β}
    (made : make (parts b) = some b) (inner : f.RoundTrips (parts b)) :
    (f.refine make parts).RoundTrips b := by
  intro rest
  simp only [Format.refine]
  rw [inner]
  dsimp only
  rw [made]

theorem map_roundTrips {f : Format α} {make : α → β} {parts : β → α} {b : β}
    (made : make (parts b) = b) (inner : f.RoundTrips (parts b)) :
    (f.map make parts).RoundTrips b :=
  refine_roundTrips (congrArg some made) inner

/-- The induction is on the bytes that may still come: all but the last carry seven bits. -/
theorem readVarint_varintBytes {last left n : Nat} (small : last < 128)
    (fits : n < 128 ^ left * (last + 1)) (rest : List UInt8) :
    readVarint last (left + 1) (varintBytes n ++ rest) = .ok (n, rest) := by
  induction left generalizing n with
  | zero =>
      have within : n ≤ last := by omega
      have byte : (UInt8.ofNat n).toNat = n := by
        rw [UInt8.toNat_ofNat']
        omega
      rw [varintBytes, if_pos (by omega), List.singleton_append, readVarint, byte,
        if_pos (by omega), if_neg (by omega)]
  | succ left ih =>
      rw [varintBytes]
      split
      · next short =>
        have byte : (UInt8.ofNat n).toNat = n := by
          rw [UInt8.toNat_ofNat']
          omega
        rw [List.singleton_append, readVarint, byte, if_pos short, if_neg (by omega)]
      · next long =>
        have byte : (UInt8.ofNat (n % 128 + 128)).toNat = n % 128 + 128 := by
          rw [UInt8.toNat_ofNat']
          omega
        have shorter : n / 128 < 128 ^ left * (last + 1) := by
          rw [Nat.pow_succ] at fits
          apply Nat.div_lt_of_lt_mul
          rw [← Nat.mul_assoc, Nat.mul_comm 128]
          exact fits
        rw [List.cons_append, readVarint, byte, if_neg (by omega), ih shorter]
        dsimp only
        congr 2
        omega

theorem word_roundTrips {bits n : Nat} (fits : n < 2 ^ bits) : (word bits).RoundTrips n := by
  intro rest
  have few : 2 ^ (bits % 7) ≤ 2 ^ 6 := Nat.pow_le_pow_right (by decide) (by omega)
  have some : 0 < 2 ^ (bits % 7) := Nat.two_pow_pos _
  apply readVarint_varintBytes
  · change 2 ^ (bits % 7) - 1 < 128
    omega
  · change n < 128 ^ (bits / 7) * (2 ^ (bits % 7) - 1 + 1)
    rw [Nat.sub_add_cancel some, show 128 = 2 ^ 7 from rfl, ← Nat.pow_mul, ← Nat.pow_add,
      Nat.div_add_mod]
    exact fits

theorem unzigzag_zigzag (n : Int) : unzigzag (zigzag n) = n := by
  unfold zigzag unzigzag
  split <;> split <;> omega

theorem zigzag_lt {n : Int} {bits : Nat} (below : -2 ^ bits ≤ n) (above : n < 2 ^ bits) :
    zigzag n < 2 ^ (bits + 1) := by
  rw [Nat.pow_succ]
  have cast : ((2 ^ bits : Nat) : Int) = 2 ^ bits := by norm_cast
  unfold zigzag
  split <;> omega

theorem int32_roundTrips (n : Int32) : int32.RoundTrips n := by
  apply map_roundTrips
  · rw [unzigzag_zigzag, Int32.ofInt_toInt]
  · exact word_roundTrips (zigzag_lt n.le_toInt n.toInt_lt)

theorem int64_roundTrips (n : Int64) : int64.RoundTrips n := by
  apply map_roundTrips
  · rw [unzigzag_zigzag, Int64.ofInt_toInt]
  · exact word_roundTrips (zigzag_lt n.le_toInt n.toInt_lt)

theorem uint64_roundTrips (n : UInt64) : uint64.RoundTrips n := by
  apply map_roundTrips
  · exact UInt64.ofNat_toNat
  · exact word_roundTrips n.toNat_lt

theorem bool_roundTrips (b : Bool) : bool.RoundTrips b := by
  intro rest
  cases b <;> rfl

theorem option_roundTrips {f : Format α} {o : Option α} (inner : ∀ a ∈ o, f.RoundTrips a) :
    (option f).RoundTrips o := by
  intro rest
  cases o with
  | none => rfl
  | some a =>
      simp only [option, List.cons_append]
      rw [inner a rfl]
      rfl

theorem readMany_flatMap {f : Format α} {l : List α} (each : ∀ a ∈ l, f.RoundTrips a)
    (rest : List UInt8) : readMany f l.length (l.flatMap f.encode ++ rest) = .ok (l, rest) := by
  induction l with
  | nil => rfl
  | cons a l ih =>
      obtain ⟨first, others⟩ := List.forall_mem_cons.mp each
      rw [List.flatMap_cons, List.append_assoc, List.length_cons, readMany, first]
      dsimp only
      rw [ih others]

theorem list_roundTrips {f : Format α} {l : List α} (fits : l.length < 2 ^ 64)
    (each : ∀ a ∈ l, f.RoundTrips a) : (list f).RoundTrips l := by
  intro rest
  simp only [list]
  rw [List.append_assoc, word_roundTrips fits]
  exact readMany_flatMap each rest

theorem toList_loop (bytes : ByteArray) (i : Nat) (before : List UInt8) :
    ByteArray.toList.loop bytes i before = before.reverse ++ bytes.data.toList.drop i := by
  fun_induction ByteArray.toList.loop bytes i before with
  | case1 i before within ih =>
      have same : bytes.get! i = bytes.data.toList[i] := getElem!_pos bytes.data i within
      rw [ih, List.reverse_cons, List.append_assoc, same, List.singleton_append,
        List.getElem_cons_drop]
  | case2 i before beyond =>
      rw [List.drop_eq_nil_of_le, List.append_nil]
      exact Nat.not_lt.mp beyond

theorem text_roundTrips {s : String} (fits : s.utf8ByteSize < 2 ^ 64) : text.RoundTrips s := by
  intro rest
  have bytes : s.toByteArray.toList = s.toByteArray.data.toList := toList_loop s.toByteArray 0 []
  have length : s.toByteArray.toList.length = s.utf8ByteSize := by rw [bytes]; rfl
  have whole : (⟨s.toByteArray.toList.toArray⟩ : ByteArray) = s.toByteArray := by rw [bytes]
  have read : String.fromUTF8? s.toByteArray = some s := by
    rw [String.fromUTF8?, dif_pos s.isValidUTF8]
    rfl
  simp only [text]
  rw [List.append_assoc, word_roundTrips fits]
  dsimp only
  rw [← length, List.take_left, List.drop_left, whole, read, if_neg (Nat.lt_irrefl _)]

/-- An alternative reads what it has written of a value. -/
def Case.Reads (c : Case α) (a : α) : Prop :=
  ∀ body, c.body? a = some body → c.make body = a ∧ c.format.RoundTrips body

theorem Case.reads {c : Case α} {a : α} (made : ∀ body, c.body? a = some body → c.make body = a)
    (inner : ∀ body, c.format.RoundTrips body) : c.Reads a :=
  fun body carried => ⟨made body carried, inner body⟩

/-- A value is written by the first alternative that it is of. -/
theorem encodeCases_eq {a : α} {alternatives : List (Case α)} (start : Nat)
    (some : ∃ c ∈ alternatives, (c.body? a).isSome) :
    ∃ (i : Nat) (c : Case α) (body : c.Body), alternatives[i]? = .some c ∧ c.body? a = .some body ∧
      encodeCases a start alternatives = (word 32).encode (start + i) ++ c.format.encode body := by
  induction alternatives generalizing start with
  | nil => exact nomatch some
  | cons c rest ih =>
      cases found : c.body? a with
      | some body =>
          refine ⟨0, c, body, rfl, found, ?_⟩
          rw [encodeCases, found]
          rfl
      | none =>
          have later : ∃ c ∈ rest, (c.body? a).isSome := by
            simpa [found] using some
          obtain ⟨i, c', body, here, carried, same⟩ := ih (start + 1) later
          refine ⟨i + 1, c', body, here, carried, ?_⟩
          rw [encodeCases, found]
          dsimp only
          rw [same, Nat.add_assoc, Nat.add_comm 1]

theorem cases_roundTrips {alternatives : List (Case α)} {a : α}
    (few : alternatives.length < 2 ^ 32) (some : ∃ c ∈ alternatives, (c.body? a).isSome)
    (each : ∀ c ∈ alternatives, c.Reads a) : (cases alternatives).RoundTrips a := by
  intro rest
  obtain ⟨i, c, body, here, carried, same⟩ := encodeCases_eq 0 some
  obtain ⟨within, _⟩ := List.getElem?_eq_some_iff.mp here
  obtain ⟨made, inner⟩ := each c (List.mem_of_getElem? here) body carried
  simp only [cases]
  rw [same, Nat.zero_add, List.append_assoc, word_roundTrips (Nat.lt_trans within few)]
  dsimp only
  rw [here]
  dsimp only
  rw [Case.decode, inner]
  dsimp only
  rw [made]

end Format

open Format

/-- The sizes of a partition that is in memory are words. -/
structure Partition.Sized (p : Partition) : Prop where
  topic : p.topic.utf8ByteSize < 2 ^ 64
  ranges : p.ranges.length < 2 ^ 64

instance (p : Partition) : Decidable p.Sized :=
  decidable_of_iff (p.topic.utf8ByteSize < 2 ^ 64 ∧ p.ranges.length < 2 ^ 64)
    ⟨fun ⟨topic, ranges⟩ => ⟨topic, ranges⟩, fun ⟨topic, ranges⟩ => ⟨topic, ranges⟩⟩

/-- So are those of a state that is in memory, and of all in it. -/
structure EnumeratorState.Sized (s : EnumeratorState) : Prop where
  appended : s.appended.toList.length < 2 ^ 64
  partitions : ∀ p ∈ s.appended.toList, p.Sized
  pending : s.pending.length < 2 ^ 64
  splits : ∀ split ∈ s.pending, split.partition.Sized
  finished : s.finished.toList.length < 2 ^ 64
  ids : ∀ id ∈ s.finished.toList, id.utf8ByteSize < 2 ^ 64

instance (s : EnumeratorState) : Decidable s.Sized :=
  decidable_of_iff
    ((s.appended.toList.length < 2 ^ 64 ∧ ∀ p ∈ s.appended.toList, p.Sized) ∧
      (s.pending.length < 2 ^ 64 ∧ ∀ split ∈ s.pending, split.partition.Sized) ∧
      (s.finished.toList.length < 2 ^ 64 ∧ ∀ id ∈ s.finished.toList, id.utf8ByteSize < 2 ^ 64))
    ⟨fun ⟨⟨appended, partitions⟩, ⟨pending, splits⟩, ⟨finished, ids⟩⟩ =>
        ⟨appended, partitions, pending, splits, finished, ids⟩,
      fun sized => ⟨⟨sized.appended, sized.partitions⟩, ⟨sized.pending, sized.splits⟩,
        ⟨sized.finished, sized.ids⟩⟩⟩

namespace Layout

theorem keyRange_roundTrips (r : KeyRange) : keyRange.RoundTrips r := by
  have below := r.start_lt_stop
  have within : r.stop ≤ 65536 := r.stop_le
  apply refine_roundTrips
  · exact dif_pos ⟨r.start_lt_stop, r.stop_le⟩
  · exact pair_roundTrips (word_roundTrips (by dsimp only; omega))
      (word_roundTrips (by dsimp only; omega))

theorem shareMode_roundTrips (mode : ShareMode) : shareMode.RoundTrips mode := by
  apply cases_roundTrips (by decide)
  · cases mode <;> simp
  · simp only [List.forall_mem_cons]
    refine ⟨Case.reads ?_ unit_roundTrips, Case.reads ?_ unit_roundTrips, List.forall_mem_nil _⟩
      <;> intro body carried <;> cases mode <;> cases carried <;> rfl

theorem messageId_roundTrips (id : MessageId) : messageId.RoundTrips id := by
  apply map_roundTrips rfl
  exact pair_roundTrips (int64_roundTrips _)
    (pair_roundTrips (int64_roundTrips _) (int32_roundTrips _))

theorem latest_roundTrips (latest : Option MessageId) : (option messageId).RoundTrips latest :=
  option_roundTrips fun id _ => messageId_roundTrips id

theorem position_roundTrips (p : Position) : position.RoundTrips p := by
  apply cases_roundTrips (by decide)
  · cases p <;> simp
  · simp only [List.forall_mem_cons]
    refine ⟨Case.reads ?_ fun _ => pair_roundTrips (messageId_roundTrips _) (bool_roundTrips _),
      Case.reads ?_ uint64_roundTrips, List.forall_mem_nil _⟩
      <;> intro body carried <;> cases p <;> cases carried <;> rfl

theorem stopCursor_roundTrips (cursor : StopCursor) : stopCursor.RoundTrips cursor := by
  apply cases_roundTrips (by decide)
  · cases cursor <;> simp
  · simp only [List.forall_mem_cons]
    refine ⟨Case.reads ?_ unit_roundTrips,
      Case.reads ?_ latest_roundTrips,
      Case.reads ?_ messageId_roundTrips, Case.reads ?_ messageId_roundTrips,
      Case.reads ?_ uint64_roundTrips, Case.reads ?_ uint64_roundTrips,
      Case.reads ?_ uint64_roundTrips, Case.reads ?_ uint64_roundTrips, List.forall_mem_nil _⟩
      <;> intro body carried <;> cases cursor <;> cases carried <;> rfl

theorem partition_roundTrips {p : Partition} (sized : p.Sized) : partition.RoundTrips p := by
  apply map_roundTrips rfl
  exact pair_roundTrips (text_roundTrips sized.topic) (pair_roundTrips (int32_roundTrips _)
    (pair_roundTrips (list_roundTrips sized.ranges fun r _ => keyRange_roundTrips r)
      (shareMode_roundTrips _)))

theorem split_roundTrips {s : Split} (sized : s.partition.Sized) : split.RoundTrips s := by
  apply map_roundTrips rfl
  exact pair_roundTrips (partition_roundTrips sized) (pair_roundTrips (position_roundTrips _)
    (pair_roundTrips (stopCursor_roundTrips _) (latest_roundTrips _)))

/-- The sets of a state are written as lists, which make these sets again. -/
theorem state_roundTrips {s : EnumeratorState} (sized : s.Sized) : state.RoundTrips s := by
  apply map_roundTrips
  · dsimp only
    rw [OrderedSet.ofList_toList, OrderedSet.ofList_toList]
  · exact pair_roundTrips
      (list_roundTrips sized.appended fun p member =>
        partition_roundTrips (sized.partitions p member))
      (pair_roundTrips
        (list_roundTrips sized.pending fun split member =>
          split_roundTrips (sized.splits split member))
        (list_roundTrips sized.finished fun id member => text_roundTrips (sized.ids id member)))

end Layout

namespace Checkpoint

theorem decodeBody_encode {α : Type} {format : Format α} {a : α} (reads : format.RoundTrips a) :
    decodeBody format (format.encode a) = .ok a := by
  have whole := reads []
  rw [List.append_nil] at whole
  rw [decodeBody, whole]

theorem decodeBlob_blob {α β : Type} (legacy : Format β) (upgrade : β → α) {current : Format α}
    {a : α} (reads : current.RoundTrips a) :
    decodeBlob legacy upgrade current (blob currentVersion current a) = .ok a := by
  rw [blob, decodeBlob_versionBytes (by decide), if_neg (by decide), if_pos rfl]
  exact decodeBody_encode reads

theorem decodeSplit_encodeSplit {s : Split} (sized : s.partition.Sized) :
    decodeSplit (encodeSplit s) = .ok s :=
  decodeBlob_blob _ _ (Layout.split_roundTrips sized)

theorem decodeState_encodeState {s : EnumeratorState} (sized : s.Sized) :
    decodeState (encodeState s) = .ok s :=
  decodeBlob_blob _ _ (Layout.state_roundTrips sized)

/-- A checkpoint of the current version is read back as the value it was made of. -/
theorem round_trip (split : Split) (state : EnumeratorState) :
    (split.partition.Sized → decodeSplit (encodeSplit split) = .ok split) ∧
      (state.Sized → decodeState (encodeState state) = .ok state) :=
  ⟨decodeSplit_encodeSplit, decodeState_encodeState⟩

end Checkpoint

namespace Sample

/-- Ranges that overlap, stand in no order and repeat, and numbers at the ends of their widths. -/
def farSplit : Split where
  partition := ⟨"persistent://public/default/t-ü", .minValue,
    [⟨7, 65536, by decide, by decide⟩, ⟨0, 8, by decide, by decide⟩,
      ⟨7, 65536, by decide, by decide⟩], .join⟩
  startPosition := .publishTime 18446744073709551615
  stopCursor := .latest (some ⟨.minValue, .maxValue, .minValue⟩)
  latestConsumed := some .earliest

def state : EnumeratorState :=
  ⟨.ofList [farSplit.partition, ⟨"t", -1, [.full], .split⟩], [farSplit, farSplit],
    .ofList ["t|0-65535|Split", ""]⟩

end Sample

theorem Checkpoint.round_trip_sample :
    Sample.farSplit.partition.Sized ∧ Sample.state.Sized ∧
      decodeSplit (encodeSplit Sample.farSplit) = .ok Sample.farSplit ∧
      decodeState (encodeState Sample.state) = .ok Sample.state := by
  have split : Sample.farSplit.partition.Sized := by decide
  have state : Sample.state.Sized :=
    ⟨by decide, by decide, by decide, by decide, by decide, by decide⟩
  obtain ⟨split', state'⟩ := round_trip Sample.farSplit Sample.state
  exact ⟨split, state, split' split, state' state⟩

end TopicFeed
