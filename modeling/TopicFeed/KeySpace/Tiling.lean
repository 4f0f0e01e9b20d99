import TopicFeed.KeySpace.Range
/-! Lists of ranges that share the key space out: every hash in exactly one of them. -/
namespace TopicFeed
namespace KeyRange

/-- Ranges in ascending order. -/
def sorted (ranges : List KeyRange) : List KeyRange := ranges.mergeSort precedes

/-- Follows ascending ranges from the first hash not yet covered. -/
def tileFrom (next : Nat) : List KeyRange → Except RangeFault Unit
  | [] => if next = keyCount then .ok () else .error (.uncovered next keyCount)
  | r :: rest =>
    if r.start < next then .error (.overlap r.start r.stop)
    else if next < r.start then .error (.uncovered next r.start)
    else tileFrom r.stop rest

/-- Succeeds when the ranges, in any order, are disjoint and cover the key space. -/
def checkTiling (ranges : List KeyRange) : Except RangeFault Unit :=
  if ranges.isEmpty then .error .none else tileFrom 0 (sorted ranges)

end KeyRange
end TopicFeed
