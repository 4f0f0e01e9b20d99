import TopicFeed.KeySpace.Tiling
/-! How the key space of a topic is shared out. A layout depends on nothing but itself and the
parallelism, so asking again gives the same ranges. -/
namespace TopicFeed

/-- How the ranges of a physical partition become splits. -/
inductive ShareMode where
  /-- One split has all the ranges. -/
  | join
  /-- Every range has a split of its own. -/
  | split
  deriving DecidableEq

namespace ShareMode

protected def toString : ShareMode → String
  | .join => "join"
  | .split => "split"

def ofName? : String → Option ShareMode
  | "join" => some .join
  | "split" => some .split
  | _ => none

/-- The position in the declaration, by which modes are ordered and stored. -/
def index : ShareMode → Nat
  | .join => 0
  | .split => 1

theorem index_injective {a b : ShareMode} (h : a.index = b.index) : a = b := by
  cases a <;> cases b <;> first | rfl | contradiction

end ShareMode

/-- A division of the key space into ranges. -/
inductive KeyLayout where
  /-- One range with every key. -/
  | whole
  /-- Ranges of one size, as many as given or else as the parallelism asks for. -/
  | even (count : Option UInt32)
  /-- Given ranges, ascending. -/
  | fixed (ranges : List KeyRange) (mode : ShareMode)
  deriving DecidableEq

namespace KeyLayout

def evenly (count : UInt32) : Except RangeFault KeyLayout :=
  if count = 0 ∨ keyCount < count.toNat then .error (.indivisible count.toNat)
  else .ok (.even (some count))

/-- Division into given ranges, which have to share out the key space. -/
def ofRanges (ranges : List KeyRange) (mode : ShareMode) : Except RangeFault KeyLayout := do
  KeyRange.checkTiling ranges
  return .fixed (KeyRange.sorted ranges) mode

/-- The number of even ranges, never below one nor above the number of keys. -/
def evenCount (count : Option UInt32) (parallelism : UInt32) : Nat :=
  min (max (count.getD parallelism).toNat 1) keyCount

/-- The bounds of the range at an index, the last of which takes the rest of the keys. -/
def evenBounds (count index : Nat) : Nat × Nat :=
  let size := keyCount / count
  (index * size, if index + 1 = count then keyCount else index * size + size)

/-- Ranges of one size, all but the last. -/
def evenRanges (count : Nat) : List KeyRange :=
  let bounds := (List.range count).map (evenBounds count)
  match bounds.mapM fun b => KeyRange.ofBounds b.1 b.2 with
  | .ok ranges => ranges
  | .error _ => [.full]

def ranges : KeyLayout → UInt32 → List KeyRange
  | .whole, _ => [.full]
  | .even count, parallelism => evenRanges (evenCount count parallelism)
  | .fixed ranges _, _ => ranges

def mode : KeyLayout → ShareMode
  | .whole => .split
  | .even _ => .split
  | .fixed _ mode => mode

end KeyLayout
end TopicFeed
