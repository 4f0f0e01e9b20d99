import TopicFeed.Unicode.CharSet
/-! Regular expressions, put together so that needless parts go away. -/
namespace TopicFeed

/-- A condition on a place between two characters. -/
inductive Anchor where
  | textStart
  | textEnd
  | lineStart
  | lineEnd
  /-- As the two before, with a carriage return and a line feed as one break. -/
  | crlfStart
  | crlfEnd
  | wordBoundary
  | noWordBoundary
  | wordStart
  | wordEnd
  | wordStartHalf
  | wordEndHalf
  deriving DecidableEq

def Anchor.usesWords : Anchor → Bool
  | .textStart | .textEnd | .lineStart | .lineEnd | .crlfStart | .crlfEnd => false
  | _ => true

/-- A regular expression. -/
inductive Regex where
  | empty
  | text (chars : List Char)
  | oneOf (set : CharSet)
  /-- A condition; `word` are the characters of words. -/
  | anchor (condition : Anchor) (word : CharSet)
  | concat (parts : List Regex)
  | choice (branches : List Regex)
  /-- At least `min` times, and at most `max` times if there is a bound. -/
  | repeat (r : Regex) (min : Nat) (max : Option Nat) (lazy : Bool)
  /-- A group that can be asked for. -/
  | capture (r : Regex)

namespace Regex

mutual

/-- Whether two expressions are written the same. Groups that can be asked for differ. -/
def same : Regex → Regex → Bool
  | .empty, .empty => true
  | .text cs, .text ds => cs == ds
  | .oneOf s, .oneOf t => s == t
  | .anchor a s, .anchor b t => a == b && s == t
  | .concat ps, .concat qs => sameAll ps qs
  | .choice ps, .choice qs => sameAll ps qs
  | .repeat r min max lazy, .repeat r' min' max' lazy' =>
    same r r' && min == min' && max == max' && lazy == lazy'
  | _, _ => false

def sameAll : List Regex → List Regex → Bool
  | [], [] => true
  | p :: ps, q :: qs => same p q && sameAll ps qs
  | _, _ => false

end

mutual

def isEmptyOnly : Regex → Bool
  | .empty => true
  | .text _ => false
  | .oneOf _ => false
  | .anchor _ _ => true
  | .concat parts => areEmptyOnly parts
  | .choice branches => areEmptyOnly branches
  | .repeat r _ _ _ => isEmptyOnly r
  | .capture r => isEmptyOnly r

def areEmptyOnly : List Regex → Bool
  | [] => true
  | r :: rest => isEmptyOnly r && areEmptyOnly rest

end

mutual

/-- A length that no match falls short of, if the expression can match at all. -/
def leastLength? : Regex → Option Nat
  | .empty => some 0
  | .text chars => some chars.length
  | .oneOf set => if set.runs.isEmpty then none else some 1
  | .anchor _ _ => some 0
  | .concat parts => leastSum? parts
  | .choice branches => leastOf? branches
  | .repeat r min _ _ => (leastLength? r).map (· * min)
  | .capture r => leastLength? r

def leastSum? : List Regex → Option Nat
  | [] => some 0
  | r :: rest => do return (← leastLength? r) + (← leastSum? rest)

def leastOf? : List Regex → Option Nat
  | [] => none
  | [r] => leastLength? r
  | r :: rest => do return Nat.min (← leastLength? r) (← leastOf? rest)

end

def joinTexts : List Regex → List Regex
  | [] => []
  | r :: rest =>
    match r, joinTexts rest with
    | .text a, .text b :: more => .text (a ++ b) :: more
    | r, rest => r :: rest

/-- One part after the other. -/
def ofParts (parts : List Regex) : Regex :=
  let flat := parts.flatMap fun
    | .concat inner => inner
    | .empty => []
    | r => [r]
  match joinTexts flat with
  | [] => .empty
  | [r] => r
  | rs => .concat rs

def ofSet (set : CharSet) : Regex :=
  match set.runs with
  | [(first, last)] => if first = last then .text [.ofNat first] else .oneOf set
  | _ => .oneOf set

/-- A condition, with the characters of words only if they matter. -/
def ofAnchor (condition : Anchor) (word : CharSet) : Regex :=
  .anchor condition (if condition.usesWords then word else .empty)

def charsOf? : List Regex → Option (List Char)
  | [] => some []
  | .text [c] :: rest => (charsOf? rest).map (c :: ·)
  | _ => none

def setsOf? : List Regex → Option (List CharSet)
  | [] => some []
  | .oneOf s :: rest => (setsOf? rest).map (s :: ·)
  | _ => none

def partsOf? : List Regex → Option (List (List Regex))
  | [] => some []
  | .concat parts :: rest => (partsOf? rest).map (parts :: ·)
  | _ => none

def sharedCount : List Regex → List Regex → Nat
  | p :: ps, q :: qs => if same p q then sharedCount ps qs + 1 else 0
  | _, _ => 0

/-- Any of some branches. One character each, or one set each, make a set. Parts that all branches
begin with are taken out, in at most `limit` rounds. -/
def ofBranchesWithin (limit : Nat) (branches : List Regex) : Regex :=
  let flat := branches.flatMap fun
    | .choice inner => inner
    | r => [r]
  match limit, flat with
  | _, [] => .oneOf .empty
  | _, [r] => r
  | 0, rs => .choice rs
  | limit + 1, rs =>
    match charsOf? rs, setsOf? rs, partsOf? rs with
    | some chars, _, _ => ofSet (.ofCodes (chars.map Char.toNat))
    | _, some sets, _ => ofSet (.unions sets)
    | _, _, some (first :: others) =>
      let count := others.foldl (fun n parts => Nat.min n (sharedCount first parts)) first.length
      if count = 0 then .choice rs
      else
        let rests := (first :: others).map fun parts => ofParts (parts.drop count)
        ofParts (first.take count ++ [ofBranchesWithin limit rests])
    | _, _, _ => .choice rs

/-- Any of some branches. Every round takes a part away from each. -/
def ofBranches (branches : List Regex) : Regex :=
  let count : Regex → Nat
    | .concat parts => parts.length
    | .choice inner => inner.length
    | _ => 1
  ofBranchesWithin (branches.foldl (fun n r => n + count r) 1) branches

/-- A repetition. What matches the empty text only is not repeated. -/
def ofRepeat (r : Regex) (min : Nat) (max : Option Nat) (lazy : Bool) : Regex :=
  let (min, max) :=
    if r.isEmptyOnly then (Nat.min min 1, some ((max.map (Nat.min · 1)).getD 1)) else (min, max)
  if max = some 0 then .empty
  else if min = 1 ∧ max = some 1 then r
  else .repeat r min max lazy

end Regex
end TopicFeed
