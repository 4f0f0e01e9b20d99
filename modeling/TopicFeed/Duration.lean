/-! Spans of time, and points in time as a clock tells them. Both count nanoseconds, and both have a
width: not every span can be added to every point. -/
namespace TopicFeed

namespace Duration

def perSecond : Nat := 1000000000

/-- The nanoseconds of the longest span, whose seconds fill a 64-bit word. -/
def longest : Nat := UInt64.size * perSecond - 1

end Duration

/-- A span of time in whole nanoseconds. -/
@[ext] structure Duration where
  nanoseconds : Nat
  bounded : nanoseconds ≤ Duration.longest
  deriving DecidableEq

namespace Duration

def zero : Duration := ⟨0, by decide⟩

instance : Inhabited Duration := ⟨zero⟩

/-- So many seconds, and nanoseconds of which whole seconds are left out. -/
def ofParts (seconds : UInt64) (nanoseconds : Nat) : Duration where
  nanoseconds := seconds.toNat * perSecond + nanoseconds % perSecond
  bounded := by
    have whole := seconds.toNat_lt
    unfold longest perSecond UInt64.size
    omega

def ofSeconds (n : UInt64) : Duration := ofParts n 0

def ofMilliseconds (n : UInt64) : Duration where
  nanoseconds := n.toNat * 1000000
  bounded := by
    have whole := n.toNat_lt
    unfold longest perSecond UInt64.size
    omega

def seconds (d : Duration) : Nat := d.nanoseconds / perSecond

/-- What is left of a span after its whole seconds. -/
def subsecond (d : Duration) : Nat := d.nanoseconds % perSecond

def isZero (d : Duration) : Bool := d.nanoseconds == 0

instance : LE Duration := ⟨fun a b => a.nanoseconds ≤ b.nanoseconds⟩

instance : LT Duration := ⟨fun a b => a.nanoseconds < b.nanoseconds⟩

instance (a b : Duration) : Decidable (a ≤ b) :=
  inferInstanceAs (Decidable (a.nanoseconds ≤ b.nanoseconds))

instance (a b : Duration) : Decidable (a < b) :=
  inferInstanceAs (Decidable (a.nanoseconds < b.nanoseconds))

/-- What is left of `a` after `b`, nothing when `b` is the longer one. -/
instance : Sub Duration :=
  ⟨fun a b => ⟨a.nanoseconds - b.nanoseconds, Nat.le_trans (Nat.sub_le ..) a.bounded⟩⟩

instance : Min Duration :=
  ⟨fun a b => ⟨min a.nanoseconds b.nanoseconds, Nat.le_trans (Nat.min_le_left ..) a.bounded⟩⟩

@[simp] theorem le_def {a b : Duration} : a ≤ b ↔ a.nanoseconds ≤ b.nanoseconds := Iff.rfl

@[simp] theorem lt_def {a b : Duration} : a < b ↔ a.nanoseconds < b.nanoseconds := Iff.rfl

@[simp] theorem nanoseconds_zero : zero.nanoseconds = 0 := rfl

@[simp] theorem nanoseconds_sub (a b : Duration) :
    (a - b).nanoseconds = a.nanoseconds - b.nanoseconds := rfl

@[simp] theorem nanoseconds_min (a b : Duration) :
    (min a b).nanoseconds = min a.nanoseconds b.nanoseconds := rfl

end Duration

/-- The nanoseconds at the latest point in time, whose seconds fill a signed 64-bit word. -/
def Instant.latest : Nat := UInt64.size / 2 * Duration.perSecond - 1

/-- A point in time, by the nanoseconds since the origin of the clock. -/
@[ext] structure Instant where
  nanoseconds : Nat
  bounded : nanoseconds ≤ Instant.latest
  deriving DecidableEq

namespace Instant

def zero : Instant := ⟨0, by decide⟩

def ofMilliseconds (n : UInt64) : Instant where
  nanoseconds := n.toNat * 1000000
  bounded := by
    have whole := n.toNat_lt
    unfold latest Duration.perSecond UInt64.size
    omega

instance : LE Instant := ⟨fun a b => a.nanoseconds ≤ b.nanoseconds⟩

instance (a b : Instant) : Decidable (a ≤ b) :=
  inferInstanceAs (Decidable (a.nanoseconds ≤ b.nanoseconds))

/-- The time from `u` to `t`, nothing when `t` is the earlier one. -/
def since (t u : Instant) : Duration where
  nanoseconds := t.nanoseconds - u.nanoseconds
  bounded := by
    apply Nat.le_trans (Nat.sub_le ..)
    apply Nat.le_trans t.bounded
    decide

/-- The point in time a span later, unless it is beyond all that can be told. -/
def after? (t : Instant) (d : Duration) : Option Instant :=
  -- In this order nothing is unfolded while the point is a variable.
  if bounded : d.nanoseconds + t.nanoseconds ≤ latest then some ⟨_, bounded⟩ else none

variable {t u : Instant} {d : Duration}

@[simp] theorem le_def : t ≤ u ↔ t.nanoseconds ≤ u.nanoseconds := Iff.rfl

@[simp] theorem nanoseconds_since :
    (t.since u).nanoseconds = t.nanoseconds - u.nanoseconds := rfl

theorem after?_eq_some_iff :
    t.after? d = some u ↔ u.nanoseconds = d.nanoseconds + t.nanoseconds := by
  unfold after?
  split
  · simp [Instant.ext_iff, eq_comm]
  · next unbounded =>
    have bounded := u.bounded
    simp only [reduceCtorEq, false_iff]
    omega

theorem since_of_after? (ahead : t.after? d = some u) : u.since t = d := by
  have sum := after?_eq_some_iff.mp ahead
  apply Duration.ext
  rw [nanoseconds_since]
  omega

end Instant
end TopicFeed
