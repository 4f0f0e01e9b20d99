/-! Finite maps as lists of entries with ascending keys; a walk over a map goes by key. -/
namespace TopicFeed

open Std

/-- A map whose entries stand in ascending order of their keys, one entry a key. -/
@[ext] structure OrderedMap (κ ν : Type) [Ord κ] where
  entries : List (κ × ν)
  ascending : entries.Pairwise fun a b => compare a.1 b.1 = .lt

namespace OrderedMap

variable {κ ν : Type} [Ord κ]

/-- The map without entries. -/
def empty : OrderedMap κ ν := ⟨[], .nil⟩

instance : EmptyCollection (OrderedMap κ ν) := ⟨empty⟩

instance : Inhabited (OrderedMap κ ν) := ⟨∅⟩

def keys (m : OrderedMap κ ν) : List κ := m.entries.map (·.1)

def values (m : OrderedMap κ ν) : List ν := m.entries.map (·.2)

def size (m : OrderedMap κ ν) : Nat := m.entries.length

def isEmpty (m : OrderedMap κ ν) : Bool := m.entries.isEmpty

def get? [BEq κ] (m : OrderedMap κ ν) (k : κ) : Option ν := m.entries.lookup k

def contains [BEq κ] (m : OrderedMap κ ν) (k : κ) : Bool := (m.get? k).isSome

def filter (p : κ → ν → Bool) (m : OrderedMap κ ν) : OrderedMap κ ν :=
  ⟨m.entries.filter fun e => p e.1 e.2, m.ascending.filter _⟩

def erase [BEq κ] (m : OrderedMap κ ν) (k : κ) : OrderedMap κ ν := m.filter fun k' _ => k' != k

def mapValues {μ : Type} (f : ν → μ) (m : OrderedMap κ ν) : OrderedMap κ μ :=
  ⟨m.entries.map fun e => (e.1, f e.2), List.pairwise_map.mpr m.ascending⟩

/-- Places an entry by its key, in the place of an entry with an equal key. -/
def insertSorted (k : κ) (v : ν) : List (κ × ν) → List (κ × ν)
  | [] => [(k, v)]
  | e :: rest =>
    match compare k e.1 with
    | .lt => (k, v) :: e :: rest
    | .eq => (k, v) :: rest
    | .gt => e :: insertSorted k v rest

theorem eq_or_mem_of_mem_insertSorted {k : κ} {v : ν} {x : κ × ν} {l : List (κ × ν)}
    (h : x ∈ insertSorted k v l) : x = (k, v) ∨ x ∈ l := by
  induction l with
  | nil => exact .inl (List.mem_singleton.mp h)
  | cons e rest ih =>
    rw [insertSorted] at h
    split at h
    · exact List.mem_cons.mp h
    · exact (List.mem_cons.mp h).imp_right (List.mem_cons_of_mem e)
    · rcases List.mem_cons.mp h with rfl | h
      · exact .inr List.mem_cons_self
      · exact (ih h).imp_right (List.mem_cons_of_mem e)

theorem pairwise_insertSorted [TransOrd κ] [LawfulEqOrd κ] (k : κ) (v : ν) {l : List (κ × ν)}
    (h : l.Pairwise fun a b => compare a.1 b.1 = .lt) :
    (insertSorted k v l).Pairwise fun a b => compare a.1 b.1 = .lt := by
  induction l with
  | nil => simp [insertSorted]
  | cons e rest ih =>
    have tail := List.pairwise_cons.mp h
    rw [insertSorted]
    split
    · next lt =>
      refine List.pairwise_cons.mpr ⟨fun x hx => ?_, h⟩
      rcases List.mem_cons.mp hx with rfl | hx
      · exact lt
      · exact TransCmp.lt_trans lt (tail.1 x hx)
    · next eq =>
      have same : k = e.1 := LawfulEqOrd.eq_of_compare eq
      subst same
      exact List.pairwise_cons.mpr tail
    · next gt =>
      refine List.pairwise_cons.mpr ⟨fun x hx => ?_, ih tail.2⟩
      rcases eq_or_mem_of_mem_insertSorted hx with rfl | hx
      · exact OrientedCmp.lt_of_gt gt
      · exact tail.1 x hx

theorem lookup_insertSorted [LawfulEqOrd κ] [BEq κ] [LawfulBEq κ] (k k' : κ) (v : ν)
    (l : List (κ × ν)) :
    (insertSorted k v l).lookup k' = if k' == k then some v else l.lookup k' := by
  induction l with
  | nil =>
    rw [insertSorted, List.lookup_cons]
    cases k' == k <;> rfl
  | cons e rest ih =>
    rw [insertSorted]
    split
    · rw [List.lookup_cons]
      cases k' == k <;> rfl
    · next eq =>
      have same : k = e.1 := LawfulEqOrd.eq_of_compare eq
      rw [List.lookup_cons, List.lookup_cons, same]
      cases k' == e.1 <;> rfl
    · next gt =>
      rw [List.lookup_cons, List.lookup_cons, ih]
      cases met : k' == e.1 with
      | false => rfl
      | true =>
        have other : (k' == k) = false := by
          apply beq_false_of_ne
          rintro rfl
          rw [eq_of_beq met, compare_self] at gt
          exact nomatch gt
        rw [other]
        rfl

omit [Ord κ] in
theorem lookup_filter [BEq κ] [LawfulBEq κ] (p : κ → Bool) (k : κ) (l : List (κ × ν)) :
    (l.filter fun e => p e.1).lookup k = if p k then l.lookup k else none := by
  induction l with
  | nil => cases p k <;> rfl
  | cons e rest ih =>
    obtain ⟨a, v⟩ := e
    rw [List.filter_cons]
    cases met : k == a with
    | true =>
      have same := eq_of_beq met
      subst same
      cases kept : p k with
      | true => simp
      | false => simpa [kept] using ih
    | false =>
      cases kept : p a <;> simp [List.lookup_cons, met, ih]

theorem lookup_eq_some_iff [LawfulEqOrd κ] [BEq κ] [LawfulBEq κ] {k : κ} {v : ν}
    {l : List (κ × ν)} (ascending : l.Pairwise fun a b => compare a.1 b.1 = .lt) :
    l.lookup k = some v ↔ (k, v) ∈ l := by
  induction l with
  | nil => simp
  | cons e rest ih =>
    obtain ⟨below, others⟩ := List.pairwise_cons.mp ascending
    rw [List.lookup_cons, List.mem_cons]
    cases met : k == e.1 with
    | true =>
      have same := eq_of_beq met
      have absent : (k, v) ∉ rest := by
        intro again
        have less := below _ again
        rw [same, compare_self] at less
        exact nomatch less
      subst same
      simp [absent, Prod.ext_iff, eq_comm]
    | false =>
      have other : (k, v) ≠ e := by
        rintro rfl
        simp at met
      simp [other, ih others]

/-- The entry of a key, and those of the other keys. -/
theorem perm_cons_filter [LawfulEqOrd κ] [BEq κ] [LawfulBEq κ] {k : κ} {v : ν}
    {l : List (κ × ν)} (ascending : l.Pairwise fun a b => compare a.1 b.1 = .lt)
    (here : (k, v) ∈ l) : l.Perm ((k, v) :: l.filter fun e => e.1 != k) := by
  induction l with
  | nil => exact nomatch here
  | cons e rest ih =>
    obtain ⟨below, others⟩ := List.pairwise_cons.mp ascending
    have after : ∀ x ∈ rest, x.1 ≠ e.1 := by
      intro x member same
      have less := below x member
      rw [same, compare_self] at less
      exact nomatch less
    rcases List.mem_cons.mp here with rfl | later
    · have kept : rest.filter (fun x => x.1 != k) = rest :=
        List.filter_eq_self.mpr fun x member => bne_iff_ne.mpr (after x member)
      simp [kept]
    · have other : (e.1 != k) = true := bne_iff_ne.mpr (after _ later).symm
      rw [List.filter_cons, if_pos other]
      exact ((ih others later).cons e).trans (List.Perm.swap ..)

theorem filter_insertSorted [LawfulEqOrd κ] [BEq κ] [LawfulBEq κ] (k : κ) (v : ν)
    (l : List (κ × ν)) :
    (insertSorted k v l).filter (fun e => e.1 != k) = l.filter fun e => e.1 != k := by
  induction l with
  | nil => simp [insertSorted]
  | cons e rest ih =>
    rw [insertSorted]
    split
    · simp
    · next eq =>
      have same : k = e.1 := LawfulEqOrd.eq_of_compare eq
      simp [same]
    · rw [List.filter_cons, List.filter_cons, ih]

section Lookup

variable [BEq κ] [LawfulBEq κ] (m : OrderedMap κ ν) (k k' : κ)

theorem get?_filter (p : κ → Bool) :
    (m.filter fun k _ => p k).get? k = if p k then m.get? k else none :=
  lookup_filter p k m.entries

omit [LawfulBEq κ] in
theorem contains_of_get? {v : ν} (found : m.get? k = some v) : m.contains k = true := by
  rw [contains, found]
  rfl

@[simp] theorem contains_filter (p : κ → Bool) :
    (m.filter fun k _ => p k).contains k = (p k && m.contains k) := by
  rw [contains, get?_filter]
  cases p k <;> rfl

omit [LawfulBEq κ] in
@[simp] theorem get?_mapValues {μ : Type} (f : ν → μ) :
    (m.mapValues f).get? k = (m.get? k).map f := by
  simp only [get?, mapValues]
  induction m.entries with
  | nil => rfl
  | cons e rest ih =>
    rw [List.map_cons, List.lookup_cons, List.lookup_cons, ih]
    cases k == e.1 <;> rfl

@[simp] theorem contains_erase : (m.erase k).contains k' = (k' != k && m.contains k') :=
  m.contains_filter k' (· != k)

variable [LawfulEqOrd κ] {v : ν}

theorem get?_eq_some_iff : m.get? k = some v ↔ (k, v) ∈ m.entries :=
  lookup_eq_some_iff m.ascending

theorem get?_filter_eq_some_iff (p : κ → ν → Bool) :
    (m.filter p).get? k = some v ↔ m.get? k = some v ∧ p k v = true := by
  rw [get?_eq_some_iff, get?_eq_some_iff]
  exact List.mem_filter

theorem mem_keys : k ∈ m.keys ↔ m.contains k = true := by
  simp [keys, contains, Option.isSome_iff_exists, get?_eq_some_iff]

theorem mem_values : v ∈ m.values ↔ ∃ k, m.get? k = some v := by
  simp [values, get?_eq_some_iff]

theorem entries_perm_erase (here : m.get? k = some v) :
    m.entries.Perm ((k, v) :: (m.erase k).entries) :=
  perm_cons_filter m.ascending ((m.get?_eq_some_iff k).mp here)

theorem erase_of_get?_eq_none (absent : m.get? k = none) : m.erase k = m := by
  apply OrderedMap.ext
  apply List.filter_eq_self.mpr
  intro e member
  apply bne_iff_ne.mpr
  rintro rfl
  have found := (m.get?_eq_some_iff e.1).mpr member
  exact nomatch absent.symm.trans found

end Lookup

/-- What the entries hold is held by the entries of some keys and those of the others. -/
theorem flatten_filter_perm {α : Type} (m : OrderedMap κ (List α)) (p : κ → Bool) :
    m.values.flatten.Perm ((m.filter fun k _ => p k).values.flatten ++
      (m.filter fun k _ => !p k).values.flatten) := by
  rw [← List.flatten_append]
  apply List.Perm.flatten
  rw [values, values, values, ← List.map_append]
  exact (List.filter_append_perm _ _).symm.map _

variable [TransOrd κ] [LawfulEqOrd κ]

def insert (m : OrderedMap κ ν) (k : κ) (v : ν) : OrderedMap κ ν :=
  ⟨insertSorted k v m.entries, pairwise_insertSorted k v m.ascending⟩

theorem get?_insert [BEq κ] [LawfulBEq κ] (m : OrderedMap κ ν) (k k' : κ) (v : ν) :
    (m.insert k v).get? k' = if k' == k then some v else m.get? k' :=
  lookup_insertSorted k k' v m.entries

@[simp] theorem contains_insert [BEq κ] [LawfulBEq κ] (m : OrderedMap κ ν) (k k' : κ) (v : ν) :
    (m.insert k v).contains k' = (k' == k || m.contains k') := by
  rw [contains, get?_insert]
  cases k' == k <;> rfl

/-- Another value for a key that is there adds no key. -/
theorem contains_insert_of_contains [BEq κ] [LawfulBEq κ] {m : OrderedMap κ ν} {k : κ}
    (known : m.contains k = true) (k' : κ) (v : ν) :
    (m.insert k v).contains k' = m.contains k' := by
  rw [contains_insert]
  cases met : k' == k with
  | false => rfl
  | true =>
    rw [eq_of_beq met, known]
    rfl

theorem erase_insert [BEq κ] [LawfulBEq κ] (m : OrderedMap κ ν) (k : κ) (v : ν) :
    (m.insert k v).erase k = m.erase k :=
  OrderedMap.ext (filter_insertSorted k v m.entries)

/-- Adding to what a key has adds this to what the whole map holds. -/
theorem flatten_insert_perm [BEq κ] [LawfulBEq κ] {α : Type} (m : OrderedMap κ (List α)) (k : κ)
    (added : List α) :
    (m.insert k ((m.get? k).getD [] ++ added)).values.flatten.Perm
      (m.values.flatten ++ added) := by
  have stored : (m.insert k ((m.get? k).getD [] ++ added)).get? k =
      some ((m.get? k).getD [] ++ added) := by
    rw [get?_insert, beq_self_eq_true, if_pos rfl]
  have all := ((entries_perm_erase _ k stored).map (·.2)).flatten
  rw [erase_insert] at all
  refine all.trans ?_
  cases old : m.get? k with
  | none =>
    rw [m.erase_of_get?_eq_none k old]
    exact List.perm_append_comm
  | some v =>
    have before := ((m.entries_perm_erase k old).map (·.2)).flatten
    simp only [Option.getD_some, List.map_cons, List.flatten_cons, List.append_assoc] at before ⊢
    refine .trans ?_ (before.symm.append_right added)
    rw [List.append_assoc]
    exact List.perm_append_comm.append_left v

end OrderedMap
end TopicFeed
