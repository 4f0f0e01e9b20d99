/-! Ranges of the hashed key space. Every key of a message is hashed to a number below `keyCount`;
a range is a non-empty half-open slice of these hashes. -/
namespace TopicFeed

open Std

def keyCount : Nat := 65536

/-- Why ranges were refused. -/
inductive RangeFault where
  /-- The bounds do not delimit a non-empty slice of the key space. -/
  | bounds (start stop : Nat)
  /-- There are no ranges at all. -/
  | none
  /-- A range starts before the end of the one before it. -/
  | overlap (start stop : Nat)
  /-- No range has the keys from `start` up to `stop`. -/
  | uncovered (start stop : Nat)
  /-- The key space cannot be divided into so many ranges. -/
  | indivisible (count : Nat)
  deriving DecidableEq

namespace RangeFault

def message : RangeFault → String
  | .bounds start stop => s!"[{start}, {stop}) is not a valid range within [0, {keyCount})"
  | .none => "at least one range is required"
  | .overlap start stop => s!"range {start}-{stop} overlaps with a previous range"
  | .uncovered start stop => s!"keys [{start}, {stop}) are not covered"
  | .indivisible count => s!"cannot divide the key space into {count} ranges"

end RangeFault

/-- The key hashes from `start` up to, and without, `stop`. -/
structure KeyRange where
  start : Nat
  stop : Nat
  start_lt_stop : start < stop
  stop_le : stop ≤ keyCount
  deriving DecidableEq

namespace KeyRange

/-- The range between two bounds, refused when it is empty or leaves the key space. -/
def ofBounds (start stop : Nat) : Except RangeFault KeyRange :=
  if h : start < stop ∧ stop ≤ keyCount then .ok ⟨start, stop, h.1, h.2⟩
  else .error (.bounds start stop)

def full : KeyRange := ⟨0, keyCount, by decide, Nat.le_refl _⟩

instance : Inhabited KeyRange := ⟨full⟩

/-- The least and the greatest hash of the range. -/
def inclusive (r : KeyRange) : Nat × Nat := (r.start, r.stop - 1)

def size (r : KeyRange) : Nat := r.stop - r.start

protected def toString (r : KeyRange) : String := s!"{r.start}-{r.stop}"

/-- A hash lies in a range. -/
instance : Membership Nat KeyRange := ⟨fun r key => r.start ≤ key ∧ key < r.stop⟩

theorem mem_def {r : KeyRange} {key : Nat} : key ∈ r ↔ r.start ≤ key ∧ key < r.stop := Iff.rfl

instance (key : Nat) (r : KeyRange) : Decidable (key ∈ r) :=
  inferInstanceAs (Decidable (r.start ≤ key ∧ key < r.stop))

/-- By start, then by end. -/
instance : Ord KeyRange := ⟨compareLex (compareOn start) (compareOn stop)⟩

instance : TransOrd KeyRange :=
  inferInstanceAs (TransCmp (compareLex (compareOn start) (compareOn stop)))

instance : LawfulEqOrd KeyRange where
  eq_of_compare {a b} h := by
    have both := compareLex_eq_eq.mp
      (show compareLex (compareOn start) (compareOn stop) a b = .eq from h)
    have starts : a.start = b.start := LawfulEqOrd.eq_of_compare both.1
    have stops : a.stop = b.stop := LawfulEqOrd.eq_of_compare both.2
    cases a
    cases b
    cases starts
    cases stops
    rfl

/-- Whether one range may stand before another in ascending order. -/
def precedes (a b : KeyRange) : Bool := (compare a b).isLE

end KeyRange
end TopicFeed
