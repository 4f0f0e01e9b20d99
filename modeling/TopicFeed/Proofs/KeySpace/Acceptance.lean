import Mathlib.Data.List.Sort
import TopicFeed.Proofs.KeySpace.Sharing
/-! Which lists of ranges are accepted: those that have every key in exactly one range, in whatever
order the ranges stand. They are kept in the order of the keys, each from where the last one
ends. -/
namespace TopicFeed
namespace KeyRange

variable {a b : KeyRange} {ranges others : List KeyRange} {next : Nat}

/-- How many of the ranges have a key. -/
def coverage (ranges : List KeyRange) (key : Nat) : Nat := ranges.countP fun r => key ∈ r

theorem coverage_cons (r : KeyRange) (rest : List KeyRange) (key : Nat) :
    coverage (r :: rest) key = coverage rest key + if key ∈ r then 1 else 0 := by
  simp only [coverage, List.countP_cons, decide_eq_true_eq]

theorem coverage_pos {r : KeyRange} (member : r ∈ ranges) {key : Nat} (within : key ∈ r) :
    0 < coverage ranges key :=
  List.countP_pos_iff.mpr ⟨r, member, decide_eq_true within⟩

/-- From a hash on, every range begins where the one before it ends, and the last one ends with the
key space. -/
inductive Adjoining : Nat → List KeyRange → Prop
  | nil : Adjoining keyCount []
  | cons {r : KeyRange} {rest : List KeyRange} :
      Adjoining r.stop rest → Adjoining r.start (r :: rest)

theorem tileFrom_eq_ok_iff : tileFrom next ranges = .ok () ↔ Adjoining next ranges := by
  constructor
  · intro tiled
    induction ranges generalizing next with
    | nil =>
        rw [tileFrom] at tiled
        split at tiled
        · next whole =>
          rw [whole]
          exact .nil
        · cases tiled
    | cons r rest ih =>
        rw [tileFrom] at tiled
        split at tiled
        · cases tiled
        split at tiled
        · cases tiled
        obtain rfl : r.start = next := by omega
        exact .cons (ih tiled)
  · intro adjoining
    induction adjoining with
    | nil => exact if_pos rfl
    | cons _ ih =>
        rw [tileFrom, if_neg (Nat.lt_irrefl _), if_neg (Nat.lt_irrefl _)]
        exact ih

namespace Adjoining

theorem start_ge (adjoining : Adjoining next ranges) : ∀ r ∈ ranges, next ≤ r.start :=
  (tileFrom_spec (tileFrom_eq_ok_iff.mpr adjoining)).1

theorem ascending (adjoining : Adjoining next ranges) :
    ranges.Pairwise fun a b => a.start < b.start := by
  induction adjoining with
  | nil => exact .nil
  | @cons r rest later ih =>
      refine List.pairwise_cons.mpr ⟨fun other member => ?_, ih⟩
      exact Nat.lt_of_lt_of_le r.start_lt_stop (later.start_ge other member)

end Adjoining

section Sorted

theorem start_le_of_precedes (before : precedes a b = true) : a.start ≤ b.start := by
  have first : compare a.start b.start ≠ .gt := by
    intro greater
    have all : compare a b = .gt := by
      show (compare a.start b.start).then (compare a.stop b.stop) = .gt
      rw [greater]
      rfl
    rw [precedes, all] at before
    cases before
  exact Nat.not_lt.mp (mt Nat.compare_eq_gt.mpr first)

theorem precedes_trans {c : KeyRange} (first : precedes a b = true) (second : precedes b c = true) :
    precedes a c = true := Std.TransCmp.isLE_trans first second

theorem precedes_total (a b : KeyRange) : (precedes a b || precedes b a) = true := by
  have swap : compare b a = (compare a b).swap := Std.OrientedCmp.eq_swap
  rw [precedes, precedes, swap]
  cases compare a b <;> rfl

theorem precedes_antisymm (first : precedes a b = true) (second : precedes b a = true) : a = b :=
  Std.LawfulEqOrd.eq_of_compare (Std.OrientedCmp.isLE_antisymm first second)

theorem sorted_perm (ranges : List KeyRange) : (sorted ranges).Perm ranges :=
  List.mergeSort_perm ranges precedes

theorem sorted_pairwise (ranges : List KeyRange) :
    (sorted ranges).Pairwise fun a b => precedes a b = true :=
  @List.pairwise_mergeSort _ precedes (fun _ _ _ => precedes_trans) precedes_total ranges

theorem sorted_congr (same : ranges.Perm others) : sorted ranges = sorted others := by
  have perm := (sorted_perm ranges).trans (same.trans (sorted_perm others).symm)
  exact perm.eq_of_pairwise (fun _ _ _ _ => precedes_antisymm) (sorted_pairwise ranges)
    (sorted_pairwise others)

end Sorted

/-- Ranges in ascending order that have every key from a hash on exactly once adjoin each other. -/
theorem adjoining_of_coverage (low : next ≤ keyCount)
    (order : ranges.Pairwise fun a b => precedes a b = true)
    (above : ∀ r ∈ ranges, next ≤ r.start)
    (once : ∀ key, next ≤ key → key < keyCount → coverage ranges key = 1) :
    Adjoining next ranges := by
  induction ranges generalizing next with
  | nil =>
      have whole : next = keyCount := by
        by_contra short
        exact nomatch once next (Nat.le_refl _) (by omega)
      rw [whole]
      exact .nil
  | cons r rest ih =>
      obtain ⟨first, order⟩ := List.pairwise_cons.mp order
      obtain ⟨here, later⟩ := List.forall_mem_cons.mp above
      have proper := r.start_lt_stop
      -- the range that has the next key comes after this one, so that this one begins there at most
      have begins : r.start = next := by
        have some : 0 < coverage (r :: rest) next := by
          have below := r.start_lt_keyCount
          have one := once next (Nat.le_refl _) (by omega)
          omega
        obtain ⟨other, member, within⟩ := List.countP_pos_iff.mp some
        have within := mem_def.mp (of_decide_eq_true within)
        rcases List.mem_cons.mp member with rfl | member
        · omega
        · have before := start_le_of_precedes (first other member)
          omega
      subst begins
      -- a key of this range that another one had would be there twice
      have apart : ∀ other ∈ rest, r.stop ≤ other.start := by
        intro other member
        by_contra early
        have within : other.start ∈ r := ⟨later other member, by omega⟩
        have both := once other.start (later other member) other.start_lt_keyCount
        have again := coverage_pos member other.start_mem
        rw [coverage_cons, if_pos within] at both
        omega
      refine .cons (ih r.stop_le order apart fun key high below => ?_)
      have one := once key (by omega) below
      have beyond : key ∉ r := fun within => by
        have within := mem_def.mp within
        omega
      rwa [coverage_cons, if_neg beyond] at one

theorem coverage_perm (same : ranges.Perm others) (key : Nat) :
    coverage ranges key = coverage others key := same.countP_eq _

theorem checkTiling_eq (some : ranges ≠ []) : checkTiling ranges = tileFrom 0 (sorted ranges) := by
  rw [checkTiling, if_neg (mt List.isEmpty_iff.mp some)]

theorem checkTiling_eq_ok_iff : checkTiling ranges = .ok () ↔ Adjoining 0 (sorted ranges) := by
  by_cases none : ranges = []
  · subst none
    refine iff_of_false (fun accepted => ?_) fun adjoining => ?_
    · cases accepted
    · rw [sorted, List.mergeSort_nil] at adjoining
      cases tileFrom_eq_ok_iff.mpr adjoining
  · rw [checkTiling_eq none, tileFrom_eq_ok_iff]

theorem adjoining_sorted_iff :
    Adjoining 0 (sorted ranges) ↔ ∀ key < keyCount, coverage ranges key = 1 := by
  constructor
  · intro adjoining key below
    rw [← coverage_perm (sorted_perm ranges)]
    exact (tiles_of_tileFrom (tileFrom_eq_ok_iff.mpr adjoining)).countP_eq_one below
  · intro once
    refine adjoining_of_coverage (Nat.zero_le _) (sorted_pairwise ranges)
      (fun _ _ => Nat.zero_le _) fun key _ below => ?_
    rw [coverage_perm (sorted_perm ranges)]
    exact once key below

end KeyRange

namespace KeyLayout

open KeyRange

/-- Ranges are accepted exactly if every key is in one of them and no key in two, so their order
does not matter to the answer. A layout keeps the accepted ranges, ordered by their keys, and is
refused for the same reason as the ranges. -/
theorem accepts_partitions :
    (∀ ranges, checkTiling ranges = .ok () ↔ ∀ key < 65536, coverage ranges key = 1) ∧
    (∀ ranges others, ranges.Perm others → checkTiling ranges = checkTiling others) ∧
    ∀ ranges mode,
      (∀ fault, checkTiling ranges = .error fault → ofRanges ranges mode = .error fault) ∧
      (checkTiling ranges = .ok () → ∃ stored, ofRanges ranges mode = .ok (.fixed stored mode) ∧
        stored.Perm ranges ∧ stored.Pairwise (fun a b => a.start < b.start) ∧
        Adjoining 0 stored) := by
  refine ⟨fun ranges => ?_, fun ranges others same => ?_, fun ranges mode => ⟨?_, ?_⟩⟩
  · exact checkTiling_eq_ok_iff.trans adjoining_sorted_iff
  · rw [checkTiling, checkTiling, sorted_congr same, same.isEmpty_eq]
  · intro fault refused
    rw [ofRanges, refused]
    rfl
  · intro accepted
    have adjoining := checkTiling_eq_ok_iff.mp accepted
    refine ⟨sorted ranges, ?_, sorted_perm ranges, adjoining.ascending, adjoining⟩
    rw [ofRanges, accepted]
    rfl

theorem accepts_partitions_uneven :
    (∀ key < 65536, coverage Sample.uneven key = 1) ∧
      checkTiling Sample.uneven.reverse = .ok () ∧
      ∃ stored, ofRanges Sample.uneven .join = .ok (.fixed stored .join) ∧
        stored.Perm Sample.uneven ∧ Adjoining 0 stored := by
  obtain ⟨accepts, ordering, stores⟩ := accepts_partitions
  have accepted : checkTiling Sample.uneven = .ok () := by cbv
  have reversed := ordering _ _ (List.reverse_perm Sample.uneven)
  obtain ⟨stored, kept, same, _, adjoining⟩ := (stores Sample.uneven .join).2 accepted
  exact ⟨(accepts _).mp accepted, reversed.trans accepted, stored, kept, same, adjoining⟩

end KeyLayout
end TopicFeed
