import TopicFeed.Proofs.Checkpoint.RoundTrip
/-! What is read is what was written. A value whose sizes are too large for the format is refused
when it is read; no value is read as another one. -/
namespace TopicFeed
namespace Format

variable {α β : Type}

/-- Nothing but the value can be read of its bytes. -/
def Faithful (f : Format α) (a : α) : Prop :=
  ∀ ⦃rest b more⦄, f.decode (f.encode a ++ rest) = .ok (b, more) → b = a ∧ more = rest

theorem RoundTrips.faithful {f : Format α} {a : α} (reads : f.RoundTrips a) : f.Faithful a := by
  intro rest b more read
  cases (reads rest).symm.trans read
  exact ⟨rfl, rfl⟩

/-- A number with too many bits goes on past the last byte, or past the last bit in it. -/
theorem readVarint_of_large {last left n : Nat} (large : 128 ^ left * (last + 1) ≤ n)
    (rest : List UInt8) :
    readVarint last (left + 1) (varintBytes n ++ rest) = .error .longVarint := by
  induction left generalizing n with
  | zero =>
      rw [varintBytes]
      split
      · have byte : (UInt8.ofNat n).toNat = n := by
          rw [UInt8.toNat_ofNat']
          omega
        rw [List.singleton_append, readVarint, byte, if_pos (by omega), if_pos (by omega)]
      · have byte : (UInt8.ofNat (n % 128 + 128)).toNat = n % 128 + 128 := by
          rw [UInt8.toNat_ofNat']
          omega
        rw [List.cons_append, readVarint, byte, if_neg (by omega), readVarint]
  | succ left ih =>
      have later : 128 ^ left * (last + 1) ≤ n / 128 := by
        apply (Nat.le_div_iff_mul_le (by decide)).mpr
        rw [Nat.mul_right_comm, ← Nat.pow_succ]
        exact large
      have some : 0 < 128 ^ left := Nat.pow_pos (by decide)
      have first : 1 ≤ 128 ^ left * (last + 1) := Nat.mul_pos some (Nat.succ_pos last)
      have byte : (UInt8.ofNat (n % 128 + 128)).toNat = n % 128 + 128 := by
        rw [UInt8.toNat_ofNat']
        omega
      rw [varintBytes, if_neg (by omega), List.cons_append, readVarint, byte, if_neg (by omega),
        ih later]

theorem word_of_large {bits n : Nat} (large : 2 ^ bits ≤ n) (rest : List UInt8) :
    (word bits).decode ((word bits).encode n ++ rest) = .error .longVarint := by
  have some : 0 < 2 ^ (bits % 7) := Nat.two_pow_pos _
  apply readVarint_of_large
  change 128 ^ (bits / 7) * (2 ^ (bits % 7) - 1 + 1) ≤ n
  rw [Nat.sub_add_cancel some, show 128 = 2 ^ 7 from rfl, ← Nat.pow_mul, ← Nat.pow_add,
    Nat.div_add_mod]
  exact large

theorem word_faithful (bits n : Nat) : (word bits).Faithful n := by
  by_cases fits : n < 2 ^ bits
  · exact (word_roundTrips fits).faithful
  · intro rest b more read
    exact nomatch (word_of_large (Nat.le_of_not_lt fits) rest).symm.trans read

theorem pair_faithful {f : Format α} {g : Format β} {v : α × β} (first : f.Faithful v.1)
    (second : g.Faithful v.2) : (pair f g).Faithful v := by
  intro rest b more read
  obtain ⟨middle, read₁, read₂⟩ := pair_eq_ok_iff.mp read
  simp only [pair, List.append_assoc] at read₁
  obtain ⟨here, rfl⟩ := first read₁
  obtain ⟨there, rfl⟩ := second read₂
  exact ⟨Prod.ext here there, rfl⟩

theorem map_faithful {f : Format α} {make : α → β} {parts : β → α} {b : β}
    (made : make (parts b) = b) (inner : f.Faithful (parts b)) : (f.map make parts).Faithful b := by
  intro rest c more read
  obtain ⟨a, found, rfl⟩ := map_eq_ok_iff.mp read
  obtain ⟨rfl, rfl⟩ := inner found
  exact ⟨made, rfl⟩

theorem readMany_faithful {f : Format α} {l : List α} (each : ∀ a ∈ l, f.Faithful a)
    {rest : List UInt8} {read : List α} {more : List UInt8}
    (done : readMany f l.length (l.flatMap f.encode ++ rest) = .ok (read, more)) :
    read = l ∧ more = rest := by
  induction l generalizing read more with
  | nil =>
      cases done
      exact ⟨rfl, rfl⟩
  | cons a l ih =>
      obtain ⟨first, others⟩ := List.forall_mem_cons.mp each
      rw [List.flatMap_cons, List.append_assoc] at done
      obtain ⟨b, later, middle, rfl, here, there⟩ := readMany_succ_eq_ok_iff.mp done
      obtain ⟨rfl, rfl⟩ := first here
      obtain ⟨rfl, rfl⟩ := ih others there
      exact ⟨rfl, rfl⟩

theorem list_faithful {f : Format α} {l : List α} (each : ∀ a ∈ l, f.Faithful a) :
    (list f).Faithful l := by
  intro rest read more done
  obtain ⟨n, middle, number, many⟩ := list_eq_ok_iff.mp done
  simp only [list, List.append_assoc] at number
  obtain ⟨rfl, rfl⟩ := word_faithful 64 l.length number
  exact readMany_faithful each many

theorem text_faithful (s : String) : text.Faithful s := by
  by_cases fits : s.utf8ByteSize < 2 ^ 64
  · exact (text_roundTrips fits).faithful
  · intro rest read more done
    simp only [text, List.append_assoc] at done
    rw [word_of_large (Nat.le_of_not_lt fits)] at done
    cases done

end Format

open Format

namespace Layout

theorem partition_faithful (p : Partition) : partition.Faithful p := by
  apply map_faithful rfl
  exact pair_faithful (text_faithful _) (pair_faithful (int32_roundTrips _).faithful
    (pair_faithful (list_faithful fun r _ => (keyRange_roundTrips r).faithful)
      (shareMode_roundTrips _).faithful))

theorem split_faithful (s : Split) : split.Faithful s := by
  apply map_faithful rfl
  exact pair_faithful (partition_faithful _) (pair_faithful (position_roundTrips _).faithful
    (pair_faithful (stopCursor_roundTrips _).faithful (latest_roundTrips _).faithful))

theorem state_faithful (s : EnumeratorState) : state.Faithful s := by
  apply map_faithful
  · dsimp only
    rw [OrderedSet.ofList_toList, OrderedSet.ofList_toList]
  · exact pair_faithful (list_faithful fun p _ => partition_faithful p)
      (pair_faithful (list_faithful fun split _ => split_faithful split)
        (list_faithful fun id _ => text_faithful id))

theorem legacyPartition_faithful (p : LegacyPartition) : legacyPartition.Faithful p := by
  apply map_faithful rfl
  exact pair_faithful (text_faithful _) (pair_faithful (int32_roundTrips _).faithful
    (list_faithful fun r _ => (keyRange_roundTrips r).faithful))

theorem legacySplit_faithful (s : LegacySplit) : legacySplit.Faithful s := by
  apply map_faithful rfl
  exact pair_faithful (legacyPartition_faithful _)
    (pair_faithful (stopCursor_roundTrips _).faithful (latest_roundTrips _).faithful)

theorem legacyState_faithful (s : LegacyState) : legacyState.Faithful s := by
  apply map_faithful rfl
  exact pair_faithful (list_faithful fun p _ => legacyPartition_faithful p)
    (list_faithful fun split _ => legacySplit_faithful split)

end Layout

namespace Checkpoint

/-- A state that is restored from a checkpoint is the state it was taken of. -/
theorem eq_of_decodeState {s t : EnumeratorState} (restored : decodeState (encodeState s) = .ok t) :
    t = s := by
  rw [encodeState, decodeState, blob, decodeBlob_versionBytes (by decide), if_neg (by decide),
    if_pos rfl] at restored
  obtain ⟨rest, read⟩ := decodeBody_eq_ok_iff.mp restored
  rw [← List.append_nil (Layout.state.encode s)] at read
  exact (Layout.state_faithful s read).1

end Checkpoint
end TopicFeed
