/-! Finite sets as ascending lists. Equal sets have equal lists, so a set that is written out and
read back is the same value. -/
namespace TopicFeed

open Std

/-- A set whose elements stand in ascending order, each once. -/
@[ext] structure OrderedSet (α : Type) [Ord α] where
  toList : List α
  ascending : toList.Pairwise fun a b => compare a b = .lt

namespace OrderedSet

variable {α : Type} [Ord α]

instance [DecidableEq α] : DecidableEq (OrderedSet α) := fun s t =>
  if h : s.toList = t.toList then isTrue (OrderedSet.ext h)
  else isFalse fun e => h (congrArg OrderedSet.toList e)

/-- The set without elements. -/
def empty : OrderedSet α := ⟨[], .nil⟩

instance : EmptyCollection (OrderedSet α) := ⟨empty⟩

instance : Inhabited (OrderedSet α) := ⟨∅⟩

instance : Membership α (OrderedSet α) := ⟨fun s a => a ∈ s.toList⟩

def contains [BEq α] (s : OrderedSet α) (a : α) : Bool := s.toList.contains a

def isEmpty (s : OrderedSet α) : Bool := s.toList.isEmpty

/-- Places an element before the first greater one, unless an equal one is met first. -/
def insertSorted (a : α) : List α → List α
  | [] => [a]
  | b :: rest =>
    match compare a b with
    | .lt => a :: b :: rest
    | .eq => b :: rest
    | .gt => b :: insertSorted a rest

theorem insertSorted_of_lt {a : α} {l : List α} (below : ∀ b ∈ l, compare a b = .lt) :
    insertSorted a l = a :: l := by
  cases l with
  | nil => rfl
  | cons b rest => rw [insertSorted, below b List.mem_cons_self]

theorem mem_insertSorted [LawfulEqOrd α] {a x : α} {l : List α} :
    x ∈ insertSorted a l ↔ x = a ∨ x ∈ l := by
  induction l with
  | nil => simp [insertSorted]
  | cons b rest ih =>
    rw [insertSorted]
    split
    · simp
    · next h =>
      have : a = b := LawfulEqOrd.eq_of_compare h
      subst this
      simp
    · rw [List.mem_cons, ih, List.mem_cons]
      constructor
      · rintro (h | h | h)
        · exact .inr (.inl h)
        · exact .inl h
        · exact .inr (.inr h)
      · rintro (h | h | h)
        · exact .inr (.inl h)
        · exact .inl h
        · exact .inr (.inr h)

theorem pairwise_insertSorted [TransOrd α] [LawfulEqOrd α] (a : α) {l : List α}
    (h : l.Pairwise fun x y => compare x y = .lt) :
    (insertSorted a l).Pairwise fun x y => compare x y = .lt := by
  induction l with
  | nil => simp [insertSorted]
  | cons b rest ih =>
    have tail := List.pairwise_cons.mp h
    rw [insertSorted]
    split
    · next lt =>
      refine List.pairwise_cons.mpr ⟨fun x hx => ?_, h⟩
      rcases List.mem_cons.mp hx with rfl | hx
      · exact lt
      · exact TransCmp.lt_trans lt (tail.1 x hx)
    · exact h
    · next gt =>
      refine List.pairwise_cons.mpr ⟨fun x hx => ?_, ih tail.2⟩
      rcases mem_insertSorted.mp hx with rfl | hx
      · exact OrientedCmp.lt_of_gt gt
      · exact tail.1 x hx

def filter (p : α → Bool) (s : OrderedSet α) : OrderedSet α :=
  ⟨s.toList.filter p, s.ascending.filter p⟩

def erase [BEq α] (s : OrderedSet α) (a : α) : OrderedSet α := s.filter (· != a)

@[simp] theorem mem_filter {p : α → Bool} {s : OrderedSet α} {x : α} :
    x ∈ s.filter p ↔ x ∈ s ∧ p x = true := List.mem_filter

theorem contains_iff [BEq α] [LawfulBEq α] {s : OrderedSet α} {a : α} :
    s.contains a = true ↔ a ∈ s := List.contains_iff_mem

theorem nodup_toList [ReflOrd α] (s : OrderedSet α) : s.toList.Nodup := by
  refine s.ascending.imp fun less same => ?_
  rw [same, compare_self] at less
  exact nomatch less

variable [TransOrd α] [LawfulEqOrd α]

/-- Adds an element; a set that has it stays as it is. -/
def insert (s : OrderedSet α) (a : α) : OrderedSet α :=
  ⟨insertSorted a s.toList, pairwise_insertSorted a s.ascending⟩

def insertAll (s : OrderedSet α) (l : List α) : OrderedSet α := l.foldr (fun a t => t.insert a) s

/-- The elements of a list, in order and without repetitions. -/
def ofList (l : List α) : OrderedSet α := insertAll ∅ l

def union (s t : OrderedSet α) : OrderedSet α := t.insertAll s.toList

@[simp] theorem mem_insert {s : OrderedSet α} {a x : α} : x ∈ s.insert a ↔ x = a ∨ x ∈ s :=
  mem_insertSorted

@[simp] theorem mem_insertAll {s : OrderedSet α} {l : List α} {x : α} :
    x ∈ s.insertAll l ↔ x ∈ l ∨ x ∈ s := by
  induction l with
  | nil => simp [insertAll]
  | cons a rest ih =>
    simp only [insertAll, List.foldr_cons, mem_insert] at ih ⊢
    rw [ih, List.mem_cons, or_assoc]

@[simp] theorem mem_ofList {l : List α} {x : α} : x ∈ ofList l ↔ x ∈ l := by
  simp only [ofList, mem_insertAll]
  exact or_iff_left (List.not_mem_nil)

@[simp] theorem mem_union {s t : OrderedSet α} {x : α} : x ∈ s.union t ↔ x ∈ s ∨ x ∈ t :=
  mem_insertAll

@[simp] theorem mem_foldl_insert {s : OrderedSet α} {l : List α} {x : α} :
    x ∈ l.foldl insert s ↔ x ∈ l ∨ x ∈ s := by
  induction l generalizing s with
  | nil => simp
  | cons a rest ih =>
    rw [List.foldl_cons, ih, mem_insert, List.mem_cons, or_left_comm, or_assoc]

/-- The elements of a set, in order, make the set again. -/
theorem ofList_toList (s : OrderedSet α) : ofList s.toList = s := by
  obtain ⟨l, ascending⟩ := s
  apply OrderedSet.ext
  dsimp only
  induction ascending with
  | nil => rfl
  | @cons a l below _ ih =>
    have stands : (ofList (a :: l)).toList = insertSorted a (ofList l).toList := rfl
    rw [stands, ih]
    exact insertSorted_of_lt below

end OrderedSet
end TopicFeed
