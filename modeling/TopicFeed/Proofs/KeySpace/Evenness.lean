import TopicFeed.Proofs.KeySpace.Sharing
/-! How even ranges are. All have as many keys as go into each of them, and the last one takes in
addition what is left over, so it alone tells whether the ranges are of one size. -/
namespace TopicFeed
namespace KeyRange

/-- No range is larger than another by more than one key. -/
def Uniform (ranges : List KeyRange) : Prop := ∀ a ∈ ranges, ∀ b ∈ ranges, a.size ≤ b.size + 1

instance (ranges : List KeyRange) : Decidable (Uniform ranges) :=
  inferInstanceAs (Decidable (∀ a ∈ ranges, ∀ b ∈ ranges, a.size ≤ b.size + 1))

theorem size_eq_of_ofBounds {start stop : Nat} {r : KeyRange} (made : ofBounds start stop = .ok r) :
    r.size = stop - start := by
  unfold ofBounds at made
  split at made
  · cases made
    rfl
  · cases made

/-- Ranges that are made of bounds have their sizes. -/
theorem sizes_of_mapM {bounds : List (Nat × Nat)} {ranges : List KeyRange}
    (made : (bounds.mapM fun b => ofBounds b.1 b.2) = .ok ranges) :
    ranges.map size = bounds.map fun b => b.2 - b.1 := by
  induction bounds generalizing ranges with
  | nil =>
      cases made
      rfl
  | cons b rest ih =>
      rw [List.mapM_cons] at made
      cases first : ofBounds b.1 b.2 with
      | error fault =>
          rw [first] at made
          exact nomatch made
      | ok r =>
          cases others : rest.mapM fun b => ofBounds b.1 b.2 with
          | error fault =>
              rw [first, others] at made
              exact nomatch made
          | ok more =>
              rw [first, others] at made
              cases made
              rw [List.map_cons, List.map_cons, size_eq_of_ofBounds first, ih others]

/-- Where all ranges but the last are of one size, it is enough to compare the last with them. -/
theorem uniform_iff_of_sizes {ranges : List KeyRange} {few size left : Nat}
    (sizes : ranges.map KeyRange.size = List.replicate few size ++ [size + left])
    (alone : few = 0 → left = 0) : Uniform ranges ↔ left ≤ 1 := by
  have each : ∀ r ∈ ranges, r.size = size ∨ r.size = size + left := by
    intro r member
    have among := List.mem_map_of_mem (f := KeyRange.size) member
    rw [sizes, List.mem_append, List.mem_replicate, List.mem_singleton] at among
    exact among.imp_left And.right
  constructor
  · intro uniform
    by_cases none : few = 0
    · rw [alone none]
      exact Nat.zero_le 1
    · have first : size ∈ ranges.map KeyRange.size := by
        rw [sizes]
        exact List.mem_append_left _ (List.mem_replicate.mpr ⟨none, rfl⟩)
      have last : size + left ∈ ranges.map KeyRange.size := by
        rw [sizes]
        exact List.mem_append_right _ List.mem_cons_self
      obtain ⟨small, here, smaller⟩ := List.mem_map.mp first
      obtain ⟨large, there, larger⟩ := List.mem_map.mp last
      have compared := uniform large there small here
      omega
  · intro bounded a here b there
    have first := each a here
    have second := each b there
    omega

end KeyRange

namespace KeyLayout

open KeyRange

theorem evenBounds_size {count index : Nat} (within : index + 1 < count) :
    (evenBounds count index).2 - (evenBounds count index).1 = keyCount / count := by
  rw [evenBounds]
  dsimp only
  rw [if_neg (Nat.ne_of_lt within), Nat.add_sub_cancel_left]

/-- What the last range has are the keys of one range and those that are left over. -/
theorem evenBounds_last (before : Nat) :
    (evenBounds (before + 1) before).2 - (evenBounds (before + 1) before).1 =
      keyCount / (before + 1) + keyCount % (before + 1) := by
  have whole := Nat.div_add_mod keyCount (before + 1)
  rw [Nat.succ_mul, Nat.add_assoc] at whole
  rw [evenBounds]
  dsimp only
  rw [if_pos rfl]
  exact Nat.sub_eq_of_eq_add' whole.symm

theorem sizes_evenRanges {before : Nat} (fits : before + 1 ≤ keyCount) :
    (evenRanges (before + 1)).map KeyRange.size =
      List.replicate before (keyCount / (before + 1)) ++
        [keyCount / (before + 1) + keyCount % (before + 1)] := by
  obtain ⟨ranges, made, _, _⟩ := mapM_evenBounds fits (before + 1) 0 (Nat.zero_add _)
  have sizes := sizes_of_mapM made
  rw [← List.range_eq_range'] at made sizes
  rw [evenRanges, made]
  dsimp only
  rw [sizes, List.range_succ, List.map_append, List.map_append, List.map_map, List.map_singleton,
    List.map_singleton, evenBounds_last]
  congr 1
  refine List.eq_replicate_iff.mpr ⟨by rw [List.length_map, List.length_range], ?_⟩
  intro size member
  obtain ⟨index, below, rfl⟩ := List.mem_map.mp member
  exact evenBounds_size (Nat.succ_lt_succ (List.mem_range.mp below))

/-- The layouts of even ranges, with the number of ranges at some parallelism. -/
inductive DividesEvenly (parallelism : UInt32) : KeyLayout → Nat → Prop
  | byParallelism : DividesEvenly parallelism (.even none) (max 1 (min parallelism.toNat 65536))
  | evenly {count : UInt32} {layout : KeyLayout} : evenly count = .ok layout →
      DividesEvenly parallelism layout count.toNat

variable {parallelism : UInt32} {layout : KeyLayout} {count : Nat}

theorem DividesEvenly.ranges_eq (divides : layout.DividesEvenly parallelism count) :
    0 < count ∧ count ≤ keyCount ∧ layout.ranges parallelism = evenRanges count := by
  cases divides with
  | byParallelism =>
      have same : evenCount none parallelism = max 1 (min parallelism.toNat 65536) := by
        rw [evenCount, keyCount, Option.getD_none]
        omega
      rw [KeyLayout.ranges, same]
      exact ⟨by omega, by rw [keyCount]; omega, rfl⟩
  | @evenly count _ checked =>
      unfold KeyLayout.evenly at checked
      split at checked
      · cases checked
      · next accepted =>
        cases checked
        rw [not_or, ← UInt32.toNat_inj] at accepted
        have some : 0 < count.toNat := Nat.pos_of_ne_zero accepted.1
        have fits : count.toNat ≤ keyCount := Nat.le_of_not_lt accepted.2
        have same : evenCount (.some count) parallelism = count.toNat := by
          rw [evenCount, Option.getD_some]
          omega
        rw [KeyLayout.ranges, same]
        exact ⟨some, fits, rfl⟩

/-- Even ranges have the same number of keys, but the last has in addition what the division leaves.
So they are of one size, up to a single key, exactly if no more than one key is left. -/
theorem uniform_iff (divides : layout.DividesEvenly parallelism count) :
    (layout.ranges parallelism).map KeyRange.size =
      List.replicate (count - 1) (65536 / count) ++ [65536 / count + 65536 % count] ∧
    (Uniform (layout.ranges parallelism) ↔ 65536 % count ≤ 1) := by
  obtain ⟨some, fits, same⟩ := divides.ranges_eq
  obtain ⟨before, rfl⟩ := Nat.exists_eq_add_one_of_ne_zero (Nat.ne_of_gt some)
  rw [same]
  have sizes := sizes_evenRanges fits
  refine ⟨sizes, uniform_iff_of_sizes sizes ?_⟩
  rintro rfl
  exact Nat.mod_one keyCount

theorem uniform_iff_thirds : ∃ layout, evenly 3 = .ok layout ∧ layout.DividesEvenly 1 3 ∧
    (layout.ranges 1).map KeyRange.size = [21845, 21845, 21846] ∧
    Uniform (layout.ranges 1) := by
  have divides : (KeyLayout.even (some 3)).DividesEvenly 1 3 := @DividesEvenly.evenly _ 3 _ rfl
  obtain ⟨sizes, uniform⟩ := uniform_iff divides
  exact ⟨_, rfl, divides, sizes, uniform.mpr (by decide)⟩

/-- One of seven ranges has two keys more than the others. -/
theorem not_uniform_sevenths : ∃ layout, evenly 7 = .ok layout ∧ ¬Uniform (layout.ranges 1) :=
  ⟨_, rfl, by decide +kernel⟩

end KeyLayout
end TopicFeed
