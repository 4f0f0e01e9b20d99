import Mathlib.Data.List.Perm.Subperm
import Mathlib.Data.List.Sort
import TopicFeed.Collection.OrderedMap
import TopicFeed.Collection.OrderedSet
/-! Sets by their elements and maps by their entries: what a set made of a list keeps of the list,
and when two of a kind are equal. -/
namespace TopicFeed

open Std

/-- Lists that ascend by some key are equal if they have the same members. -/
theorem eq_of_ascending {κ α : Type} [Ord κ] [TransOrd κ] (key : α → κ) {l l' : List α}
    (ascending : l.Pairwise fun a b => compare (key a) (key b) = .lt)
    (ascending' : l'.Pairwise fun a b => compare (key a) (key b) = .lt)
    (same : ∀ a, a ∈ l ↔ a ∈ l') : l = l' := by
  have : Irrefl fun a b : α => compare (key a) (key b) = .lt :=
    ⟨fun a less => nomatch compare_self.symm.trans less⟩
  have : Asymm fun a b : α => compare (key a) (key b) = .lt :=
    ⟨fun a b less greater => nomatch (OrientedCmp.gt_of_lt less).symm.trans greater⟩
  exact ascending.eq_of_mem_iff ascending' same

namespace OrderedSet

variable {α : Type} [Ord α] [TransOrd α]

theorem eq_of_mem_iff {s t : OrderedSet α} (same : ∀ a, a ∈ s ↔ a ∈ t) : s = t :=
  OrderedSet.ext (eq_of_ascending id s.ascending t.ascending same)

variable [LawfulEqOrd α] {l l' : List α}

/-- Neither the order of a list nor its repetitions matter to the set. -/
theorem ofList_eq_ofList_iff : ofList l = ofList l' ↔ ∀ a, a ∈ l ↔ a ∈ l' := by
  constructor
  · intro same a
    rw [← mem_ofList, same, mem_ofList]
  · intro same
    apply eq_of_mem_iff
    intro a
    rw [mem_ofList, mem_ofList]
    exact same a

theorem ofList_toList_perm (once : l.Nodup) : (ofList l).toList.Perm l :=
  (List.perm_ext_iff_of_nodup (nodup_toList _) once).mpr fun _ => mem_ofList

theorem length_ofList_le (l : List α) : (ofList l).toList.length ≤ l.length :=
  ((nodup_toList (ofList l)).subperm fun _ member => mem_ofList.mp member).length_le

/-- What is in any of some sets. -/
def unions (sets : List (OrderedSet α)) : OrderedSet α := sets.foldr union ∅

@[simp] theorem mem_unions {sets : List (OrderedSet α)} {a : α} :
    a ∈ unions sets ↔ ∃ s ∈ sets, a ∈ s := by
  induction sets with
  | nil => exact iff_of_false List.not_mem_nil fun ⟨_, member, _⟩ => List.not_mem_nil member
  | cons s rest ih =>
      rw [unions, List.foldr_cons, mem_union, ← unions, ih]
      simp

end OrderedSet

namespace OrderedMap

variable {κ ν : Type} [Ord κ] [TransOrd κ] [LawfulEqOrd κ] [BEq κ] [LawfulBEq κ]

theorem eq_of_get? {m m' : OrderedMap κ ν} (same : ∀ k, m.get? k = m'.get? k) : m = m' := by
  refine OrderedMap.ext (eq_of_ascending Prod.fst m.ascending m'.ascending fun e => ?_)
  rw [← m.get?_eq_some_iff e.1, ← m'.get?_eq_some_iff e.1, same]

omit [TransOrd κ] [LawfulEqOrd κ] [BEq κ] [LawfulBEq κ] in
theorem keys_ascending (m : OrderedMap κ ν) : m.keys.Pairwise fun a b => compare a b = .lt :=
  List.pairwise_map.mpr m.ascending

omit [LawfulEqOrd κ] [BEq κ] [LawfulBEq κ] in
theorem nodup_keys (m : OrderedMap κ ν) : m.keys.Nodup := by
  refine m.keys_ascending.imp ?_
  rintro a _ less rfl
  exact nomatch compare_self.symm.trans less

theorem keys_eq_of_contains {m m' : OrderedMap κ ν} (same : ∀ k, m.contains k = m'.contains k) :
    m.keys = m'.keys := by
  refine eq_of_ascending id m.keys_ascending m'.keys_ascending fun k => ?_
  rw [mem_keys, mem_keys, same]

end OrderedMap
end TopicFeed
