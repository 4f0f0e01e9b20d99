import Mathlib.Algebra.Group.Nat.Defs
import Mathlib.Data.List.Rotate
/-! Taking turns. The members of a list are served one after the other, again from the front once
all were served; whose turn it is, a counter says that is reduced by their number. -/
namespace TopicFeed

variable {α : Type}

theorem toNat_add_one {turn : UInt64} (fits : turn.toNat + 1 < 2 ^ 64) :
    (turn + 1).toNat = turn.toNat + 1 := by
  rw [UInt64.toNat_add]
  exact Nat.mod_eq_of_lt fits

/-- Who is served from a turn on. -/
def inTurn (members : List α) (turn : Nat) : Nat → List α
  | 0 => []
  | count + 1 => (members[turn % members.length]?).toList ++ inTurn members (turn + 1) count

theorem inTurn_add (members : List α) (turn count more : Nat) :
    inTurn members turn (count + more) =
      inTurn members turn count ++ inTurn members (turn + count) more := by
  induction count generalizing turn with
  | zero => rw [Nat.zero_add, inTurn, List.nil_append, Nat.add_zero]
  | succ count ih =>
      rw [Nat.succ_add, inTurn, inTurn, ih, List.append_assoc, Nat.add_right_comm, Nat.add_assoc]

theorem getElem?_inTurn {members : List α} (some : members ≠ []) {turn count k : Nat}
    (within : k < count) :
    (inTurn members turn count)[k]? = members[(turn + k) % members.length]? := by
  induction count generalizing turn k with
  | zero => exact absurd within (Nat.not_lt_zero k)
  | succ count ih =>
      have turns : turn % members.length < members.length :=
        Nat.mod_lt _ (List.length_pos_iff.mpr some)
      rw [inTurn, List.getElem?_eq_getElem turns, Option.toList_some, List.singleton_append]
      cases k with
      | zero => rw [List.getElem?_cons_zero, Nat.add_zero, List.getElem?_eq_getElem turns]
      | succ k =>
          rw [List.getElem?_cons_succ, ih (Nat.lt_of_succ_lt_succ within), Nat.add_right_comm,
            Nat.add_assoc]

/-- Up to a whole round goes to the members as they stand from the first one served. -/
theorem inTurn_eq_take {members : List α} {count : Nat} (within : count ≤ members.length)
    (turn : Nat) : inTurn members turn count = (members.rotate turn).take count := by
  induction count generalizing turn with
  | zero => rw [inTurn, List.take_zero]
  | succ count ih =>
      have first : (members.rotate turn)[0]? = members[turn % members.length]? := by
        rw [List.getElem?_rotate (Nat.lt_of_lt_of_le (Nat.succ_pos _) within), Nat.zero_add]
      have next := List.rotate_rotate members turn 1
      have length := members.length_rotate turn
      rw [inTurn, ih (Nat.le_of_succ_le within), ← next, ← first]
      cases served : members.rotate turn with
      | nil =>
          rw [served, List.length_nil] at length
          omega
      | cons a rest =>
          rw [served, List.length_cons] at length
          rw [List.rotate_cons_succ, List.rotate_zero, List.take_succ_cons,
            List.take_append_of_le_length (by omega)]
          rfl

/-- A whole round serves each member once. -/
theorem inTurn_perm (members : List α) (turn : Nat) :
    (inTurn members turn members.length).Perm members := by
  rw [inTurn_eq_take (Nat.le_refl _), List.take_of_length_le (members.length_rotate turn).le]
  exact List.rotate_perm members turn

section Count

variable [BEq α] [LawfulBEq α] {members : List α} {a b : α}

/-- So many whole rounds, and one that is not over. -/
theorem count_inTurn (once : members.Nodup) (member : a ∈ members) (turn rounds rest : Nat)
    (within : rest ≤ members.length) :
    (inTurn members turn (members.length * rounds + rest)).count a = rounds ∨
      (inTurn members turn (members.length * rounds + rest)).count a = rounds + 1 := by
  induction rounds generalizing turn with
  | zero =>
      have most : (inTurn members turn rest).count a ≤ 1 := by
        rw [inTurn_eq_take within]
        refine ((List.take_sublist _ _).count_le a).trans ?_
        exact List.nodup_iff_count_le_one.mp (List.nodup_rotate.mpr once) a
      rw [Nat.mul_zero, Nat.zero_add]
      omega
  | succ rounds ih =>
      have whole : members.length * (rounds + 1) + rest =
          members.length + (members.length * rounds + rest) := by
        rw [Nat.mul_succ]
        omega
      have first : (inTurn members turn members.length).count a = 1 := by
        rw [(inTurn_perm members turn).count_eq]
        exact List.count_eq_one_of_mem once member
      rw [whole, inTurn_add, List.count_append, first]
      have later := ih (turn + members.length)
      omega

/-- At no time has one member been served twice more often than another. -/
theorem count_inTurn_le (once : members.Nodup) (here : a ∈ members) (there : b ∈ members)
    (turn count : Nat) :
    (inTurn members turn count).count a ≤ (inTurn members turn count).count b + 1 := by
  have some : 0 < members.length := List.length_pos_of_mem here
  have within : count % members.length ≤ members.length := (Nat.mod_lt _ some).le
  have first := count_inTurn once here turn (count / members.length) _ within
  have second := count_inTurn once there turn (count / members.length) _ within
  rw [Nat.div_add_mod] at first second
  omega

end Count

end TopicFeed
