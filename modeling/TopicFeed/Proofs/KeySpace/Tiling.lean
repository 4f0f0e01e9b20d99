import Mathlib.Data.List.Pairwise
import TopicFeed.KeySpace.Layout
/-! Which lists of ranges share the key space out, and that layouts make such lists. -/
namespace TopicFeed
namespace KeyRange

/-- No key is in both ranges. -/
def Apart (a b : KeyRange) : Prop := ∀ key ∈ a, key ∉ b

instance : Std.Symm Apart := ⟨fun _ _ apart key within again => apart key again within⟩

/-- No key is in two of the ranges, and every key is in one of them. -/
structure Tiles (ranges : List KeyRange) : Prop where
  apart : ranges.Pairwise Apart
  cover : ∀ key < keyCount, ∃ r ∈ ranges, key ∈ r

theorem start_mem (r : KeyRange) : r.start ∈ r := ⟨Nat.le_refl _, r.start_lt_stop⟩

/-- The least and the greatest hash delimit the range. -/
theorem mem_iff_inclusive {r : KeyRange} {key : Nat} :
    key ∈ r ↔ r.inclusive.1 ≤ key ∧ key ≤ r.inclusive.2 := by
  have proper := r.start_lt_stop
  rw [mem_def, inclusive]
  dsimp only
  omega

theorem start_lt_keyCount (r : KeyRange) : r.start < keyCount :=
  Nat.lt_of_lt_of_le r.start_lt_stop r.stop_le

theorem countP_le_one {ranges : List KeyRange} (apart : ranges.Pairwise Apart) (key : Nat) :
    ranges.countP (fun r => key ∈ r) ≤ 1 := by
  induction apart with
  | nil => exact Nat.zero_le 1
  | @cons r rest apart _ ih =>
      by_cases within : key ∈ r
      · have others : rest.countP (fun r => key ∈ r) = 0 := by
          apply List.countP_eq_zero.mpr
          intro other member again
          exact apart other member key within (of_decide_eq_true again)
        rw [List.countP_cons, others]
        split <;> omega
      · rw [List.countP_cons, if_neg fun found => within (of_decide_eq_true found)]
        exact ih

namespace Tiles

variable {ranges coarse fine : List KeyRange}

theorem of_unique (once : ranges.Nodup)
    (unique : ∀ a ∈ ranges, ∀ b ∈ ranges, ∀ key ∈ a, key ∈ b → a = b)
    (cover : ∀ key < keyCount, ∃ r ∈ ranges, key ∈ r) : Tiles ranges where
  apart := once.imp_of_mem fun here there differ key within again =>
    differ (unique _ here _ there key within again)
  cover := cover

theorem nodup (tiles : Tiles ranges) : ranges.Nodup := by
  refine tiles.apart.imp fun {a b} apart same => ?_
  subst same
  exact apart a.start a.start_mem a.start_mem

theorem unique (tiles : Tiles ranges) {a b : KeyRange} (here : a ∈ ranges) (there : b ∈ ranges)
    {key : Nat} (within : key ∈ a) (again : key ∈ b) : a = b := by
  by_contra differ
  exact tiles.apart.forall here there differ key within again

/-- Ranges that share the key space out leave no room for another one. -/
theorem subset_of_subset (tiles : Tiles coarse) (part : Tiles fine) (within : fine ⊆ coarse) :
    coarse ⊆ fine := by
  intro r member
  obtain ⟨other, found, key⟩ := part.cover r.start r.start_lt_keyCount
  rw [tiles.unique member (within found) r.start_mem key]
  exact found

/-- Every key is in one of the ranges, and the others do not have it. -/
theorem countP_eq_one (tiles : Tiles ranges) {key : Nat} (below : key < keyCount) :
    ranges.countP (fun r => key ∈ r) = 1 := by
  obtain ⟨r, member, within⟩ := tiles.cover key below
  have some : 0 < ranges.countP fun r => key ∈ r :=
    List.countP_pos_iff.mpr ⟨r, member, decide_eq_true within⟩
  have most := countP_le_one tiles.apart key
  omega

theorem of_between (tiles : Tiles coarse) (part : Tiles fine) (once : ranges.Nodup)
    (more : fine ⊆ ranges) (fewer : ranges ⊆ coarse) : Tiles ranges := by
  refine of_unique once (fun a here b there key within again => ?_) fun key below => ?_
  · exact tiles.unique (fewer here) (fewer there) within again
  · obtain ⟨r, found, within⟩ := part.cover key below
    exact ⟨r, more found, within⟩

end Tiles

/-- Ranges that were followed from a hash begin there, and tile what is above it. -/
theorem tileFrom_spec {next : Nat} {ranges : List KeyRange}
    (tiled : tileFrom next ranges = .ok ()) :
    (∀ r ∈ ranges, next ≤ r.start) ∧ ranges.Pairwise Apart ∧
      ∀ key, next ≤ key → key < keyCount → ∃ r ∈ ranges, key ∈ r := by
  induction ranges generalizing next with
  | nil =>
      rw [tileFrom] at tiled
      split at tiled
      · next whole =>
        refine ⟨List.forall_mem_nil _, .nil, fun key above below => ?_⟩
        omega
      · exact nomatch tiled
  | cons r rest ih =>
      rw [tileFrom] at tiled
      split at tiled
      · exact nomatch tiled
      split at tiled
      · exact nomatch tiled
      have here : r.start = next := by omega
      have length := r.start_lt_stop
      obtain ⟨above, apart, cover⟩ := ih tiled
      refine ⟨List.forall_mem_cons.mpr ⟨by omega, fun other member => ?_⟩,
        List.pairwise_cons.mpr ⟨fun other member key within again => ?_, apart⟩,
        fun key low high => ?_⟩
      · have later := above other member
        omega
      · -- the ranges ahead begin where this one stops, or after that
        have later := above other member
        rw [mem_def] at within again
        omega
      · by_cases within : key < r.stop
        · exact ⟨r, List.mem_cons_self, by omega, within⟩
        · obtain ⟨other, member, found⟩ := cover key (by omega) high
          exact ⟨other, List.mem_cons_of_mem _ member, found⟩

theorem tiles_of_tileFrom {ranges : List KeyRange} (tiled : tileFrom 0 ranges = .ok ()) :
    Tiles ranges := by
  obtain ⟨_, apart, cover⟩ := tileFrom_spec tiled
  exact ⟨apart, fun key below => cover key (Nat.zero_le key) below⟩

end KeyRange

namespace KeyLayout

open KeyRange

/-- Where the range at an index begins, or ends where the one before it does. -/
def evenBound (count index : Nat) : Nat :=
  if index = count then keyCount else index * (keyCount / count)

theorem evenBounds_eq {count index : Nat} (within : index < count) :
    evenBounds count index = (evenBound count index, evenBound count (index + 1)) := by
  rw [evenBounds, evenBound, evenBound, if_neg (Nat.ne_of_lt within), Nat.succ_mul]

theorem evenBound_le {count index : Nat} (within : index ≤ count) :
    evenBound count index ≤ keyCount := by
  rw [evenBound]
  split
  · exact Nat.le_refl _
  · calc index * (keyCount / count) ≤ count * (keyCount / count) := Nat.mul_le_mul_right _ within
      _ ≤ keyCount := Nat.mul_div_le _ _

theorem evenBound_lt {count index : Nat} (within : index < count) (fits : count ≤ keyCount) :
    evenBound count index < evenBound count (index + 1) := by
  have size : 0 < keyCount / count := Nat.div_pos fits (by omega)
  have below : index * (keyCount / count) < (index + 1) * (keyCount / count) :=
    Nat.mul_lt_mul_of_pos_right (Nat.lt_succ_self index) size
  have all : (index + 1) * (keyCount / count) ≤ keyCount :=
    Nat.le_trans (Nat.mul_le_mul_right _ within) (Nat.mul_div_le _ _)
  rw [evenBound, evenBound, if_neg (Nat.ne_of_lt within)]
  split <;> omega

/-- The ranges from an index on are made one after the other, up to the end of the key space. -/
theorem mapM_evenBounds {count : Nat} (fits : count ≤ keyCount) (more index : Nat)
    (whole : index + more = count) :
    ∃ ranges, ((List.range' index more).map (evenBounds count)).mapM
      (fun b => KeyRange.ofBounds b.1 b.2) = .ok ranges ∧ ranges.length = more ∧
        tileFrom (evenBound count index) ranges = .ok () := by
  -- on the number of ranges that are still to be made, each from the bound the last one ended at
  induction more generalizing index with
  | zero =>
      have last : evenBound count index = keyCount := if_pos whole
      exact ⟨[], rfl, rfl, if_pos last⟩
  | succ more ih =>
      obtain ⟨ranges, made, length, tiled⟩ := ih (index + 1) (by omega)
      have within : index < count := by omega
      have proper := evenBound_lt within fits
      have bounded := evenBound_le (Nat.succ_le_of_lt within)
      refine ⟨⟨_, _, proper, bounded⟩ :: ranges, ?_, congrArg Nat.succ length, ?_⟩
      · rw [List.range'_succ, List.map_cons, List.mapM_cons, evenBounds_eq within, ofBounds,
          dif_pos ⟨proper, bounded⟩, made]
        rfl
      · rw [tileFrom, if_neg (Nat.lt_irrefl _), if_neg (Nat.lt_irrefl _)]
        exact tiled

theorem evenRanges_tiles {count : Nat} (some : 0 < count) (fits : count ≤ keyCount) :
    Tiles (evenRanges count) := by
  obtain ⟨ranges, made, _, tiled⟩ := mapM_evenBounds fits count 0 (Nat.zero_add count)
  rw [evenRanges, List.range_eq_range', made]
  apply tiles_of_tileFrom
  rw [evenBound, if_neg (by omega), Nat.zero_mul] at tiled
  exact tiled

theorem length_evenRanges {count : Nat} (fits : count ≤ keyCount) :
    (evenRanges count).length = count := by
  obtain ⟨ranges, made, length, _⟩ := mapM_evenBounds fits count 0 (Nat.zero_add count)
  rw [evenRanges, List.range_eq_range', made]
  exact length

/-- The layouts that can be made: those that need no check, and those that pass it. -/
inductive Made : KeyLayout → Prop
  | whole : Made .whole
  | byParallelism : Made (.even none)
  | evenly {count : UInt32} {layout : KeyLayout} : evenly count = .ok layout → Made layout
  | given {ranges : List KeyRange} {mode : ShareMode} {layout : KeyLayout} :
      ofRanges ranges mode = .ok layout → Made layout

theorem even_tiles (count : Option UInt32) (parallelism : UInt32) :
    Tiles ((KeyLayout.even count).ranges parallelism) := by
  apply evenRanges_tiles
  · rw [evenCount, keyCount]
    omega
  · exact Nat.min_le_right _ _

variable {layout : KeyLayout}

/-- Whatever the parallelism, a layout shares the key space out. -/
theorem Made.tiles (made : layout.Made) (parallelism : UInt32) :
    Tiles (layout.ranges parallelism) := by
  cases made with
  | whole => exact tiles_of_tileFrom rfl
  | byParallelism => exact even_tiles none parallelism
  | evenly checked =>
      unfold KeyLayout.evenly at checked
      split at checked
      · exact nomatch checked
      · cases checked
        exact even_tiles _ parallelism
  | @given ranges mode _ checked =>
      unfold ofRanges at checked
      cases tiled : checkTiling ranges with
      | error fault =>
          rw [tiled] at checked
          exact nomatch checked
      | ok =>
          rw [tiled] at checked
          cases checked
          rw [checkTiling] at tiled
          split at tiled
          · exact nomatch tiled
          · exact tiles_of_tileFrom tiled

/-- Only a layout that follows the parallelism changes with it. -/
theorem ranges_eq (settled : layout ≠ .even none) (parallelism other : UInt32) :
    layout.ranges parallelism = layout.ranges other := by
  cases layout with
  | whole => rfl
  | fixed => rfl
  | even count =>
      cases count with
      | none => exact absurd rfl settled
      | some count => rfl

end KeyLayout
end TopicFeed
