/-! Messages and their ids. -/
namespace TopicFeed

open Std

/-- Where a message stands in a partition: its ledger, its entry there, its place in a batch. -/
structure MessageId where
  ledger : Int64
  entry : Int64
  batch : Int32
  deriving DecidableEq

namespace MessageId

/-- Stands for the begin of a partition. -/
def earliest : MessageId := ⟨-1, -1, -1⟩

/-- Stands for the end of a partition. -/
def latest : MessageId := ⟨Int64.maxValue, Int64.maxValue, -1⟩

/-- Whether the id is that of a message and not one of the two that stand for an end. -/
def isConcrete (id : MessageId) : Bool := id != earliest && id != latest

protected def toString (id : MessageId) : String :=
  if id = earliest then "earliest"
  else if id = latest then "latest"
  else id.ledger.toInt.repr ++ ":" ++ id.entry.toInt.repr ++ ":" ++ id.batch.toInt.repr

/-- By ledger, entry and place in the batch. -/
def order : MessageId → MessageId → Ordering :=
  compareLex (compareOn ledger) (compareLex (compareOn entry) (compareOn batch))

instance : Ord MessageId := ⟨order⟩

instance : TransOrd MessageId :=
  inferInstanceAs (TransCmp
    (compareLex (compareOn ledger) (compareLex (compareOn entry) (compareOn batch))))

instance : LawfulEqOrd MessageId where
  eq_of_compare {a b} h := by
    have h : order a b = .eq := h
    have first := compareLex_eq_eq.mp h
    have second := compareLex_eq_eq.mp first.2
    have ledgers : a.ledger = b.ledger := LawfulEqOrd.eq_of_compare first.1
    have entries : a.entry = b.entry := LawfulEqOrd.eq_of_compare second.1
    have batches : a.batch = b.batch := LawfulEqOrd.eq_of_compare second.2
    cases a
    cases b
    cases ledgers
    cases entries
    cases batches
    rfl

theorem compare_swap (a b : MessageId) : compare a b = (compare b a).swap :=
  OrientedCmp.eq_swap

theorem not_lt_self (id : MessageId) : compare id id ≠ .lt := by
  rw [compare_self]
  exact nofun

theorem not_lt_of_isLE {a b : MessageId} (le : (compare a b).isLE = true) :
    compare b a ≠ .lt := by
  intro lt
  rw [compare_swap, lt] at le
  exact nomatch le

theorem isLE_of_not_lt {a b : MessageId} (behind : compare b a ≠ .lt) :
    (compare a b).isLE = true := by
  rw [compare_swap]
  cases order : compare b a with
  | lt => exact absurd order behind
  | eq | gt => rfl

/-- Ascending, equal ids side by side. -/
def sorted (ids : List MessageId) : List MessageId :=
  ids.mergeSort fun a b => (compare a b).isLE

def greatest? (ids : List MessageId) : Option MessageId :=
  ids.foldl (fun best id =>
    match best with
    | none => some id
    | some other => if (compare id other).isGE then some id else some other) none

/-- The greatest of some ids is one of them. -/
theorem greatest?_cons (id : MessageId) (rest : List MessageId) :
    ∃ last ∈ id :: rest, greatest? (id :: rest) = some last ∧
      ∀ other ∈ id :: rest, (compare other last).isLE = true := by
  induction rest generalizing id with
  | nil => exact ⟨id, List.mem_cons_self, rfl, by simp [compare_self]⟩
  | cons next rest ih =>
    have step : greatest? (id :: next :: rest) =
        greatest? ((if (compare next id).isGE then next else id) :: rest) := by
      simp only [greatest?, List.foldl_cons]
      split <;> rfl
    rw [step]
    split
    · next newer =>
      obtain ⟨last, member, same, above⟩ := ih next
      have le : (compare id next).isLE = true := by
        rw [compare_swap, Ordering.isLE_swap]
        exact newer
      refine ⟨last, List.mem_cons_of_mem id member, same, ?_⟩
      exact List.forall_mem_cons.mpr ⟨TransCmp.isLE_trans le (above next List.mem_cons_self), above⟩
    · next older =>
      obtain ⟨last, member, same, above⟩ := ih id
      obtain ⟨here, others⟩ := List.forall_mem_cons.mp above
      have le : (compare next id).isLE = true := by
        cases order : compare next id <;> simp_all
      refine ⟨last, ?_, same, ?_⟩
      · rcases List.mem_cons.mp member with rfl | later
        · exact List.mem_cons_self
        · exact List.mem_cons_of_mem id (List.mem_cons_of_mem next later)
      · exact List.forall_mem_cons.mpr
          ⟨here, List.forall_mem_cons.mpr ⟨TransCmp.isLE_trans le here, others⟩⟩

end MessageId

/-- A message as it is received. Times are milliseconds since the epoch. -/
structure Message where
  id : MessageId
  /-- The full name of the physical partition. -/
  topic : String
  key : Option String
  payload : List UInt8
  publishTime : UInt64
  eventTime : Option UInt64
  deriving DecidableEq

namespace Message

/-- When the event happened, which is when it was published unless the producer says otherwise. -/
def effectiveEventTime (m : Message) : UInt64 := m.eventTime.getD m.publishTime

end Message
end TopicFeed
