import TopicFeed.Pattern.Regex
/-! Where regular expressions match in a text. -/
namespace TopicFeed

namespace Anchor

/-- Whether the condition holds between two characters, either of which may be missing. -/
def holds (word : CharSet) (before after : Option Char) : Anchor → Bool
  | .textStart => before.isNone
  | .textEnd => after.isNone
  | .lineStart => before.all (· == '\n')
  | .lineEnd => after.all (· == '\n')
  | .crlfStart => before.all fun c => c == '\n' || (c == '\r' && after != some '\n')
  | .crlfEnd => after.all fun c => c == '\r' || (c == '\n' && before != some '\r')
  | .wordBoundary => before.any word.contains != after.any word.contains
  | .noWordBoundary => before.any word.contains == after.any word.contains
  | .wordStart => !before.any word.contains && after.any word.contains
  | .wordEnd => before.any word.contains && !after.any word.contains
  | .wordStartHalf => !before.any word.contains
  | .wordEndHalf => !after.any word.contains

end Anchor

/-- For each place of a text, the lengths of the matches that start there: the binary digit of
weight 2 to the `k` tells whether there is one of length `k`. -/
abbrev Lengths := List Nat

namespace Lengths

/-- The matches that begin where others end: `ends` are the lengths of those at the first place. -/
def follow (ends : Nat) : Lengths → Nat
  | [] => 0
  | here :: later =>
    if ends = 0 then 0
    else (if ends % 2 = 1 then here else 0) ||| 2 * follow (ends / 2) later

/-- Matches of one kind after matches of another. -/
def andThen : Lengths → Lengths → Lengths
  | [], _ => []
  | _, [] => []
  | ends :: before, here :: later => follow ends (here :: later) :: andThen before later

def or (a b : Lengths) : Lengths := a.zipWith (· ||| ·) b

def empty (a : Lengths) : Lengths := a.map fun _ => 1

def power (a : Lengths) (n : Nat) : Lengths :=
  if h : n = 0 then a.empty
  else
    let half := a.power (n / 2)
    if n % 2 = 1 then (half.andThen half).andThen a else half.andThen half
termination_by n
decreasing_by omega

/-- Any number of matches in a row. Those after the first end later on, as empty ones add
nothing. -/
def star : Lengths → Lengths
  | [] => []
  | ends :: later =>
    let rest := star later
    (1 ||| 2 * follow (ends / 2) rest) :: rest

end Lengths

namespace Regex

/-- A text as its places: the characters on either side of each. -/
def places (text : List Char) : List (Option Char × Option Char) :=
  (none :: text.map some).zip (text.map some ++ [none])

/-- The matches of a text in another. -/
def textLengths (part : List Char) : List Char → Lengths
  | [] => [if part.isEmpty then 1 else 0]
  | c :: rest =>
    (if part.isPrefixOf (c :: rest) then 1 <<< part.length else 0) :: textLengths part rest

mutual

def lengths (text : List Char) : Regex → Lengths
  | .empty => (places text).map fun _ => 1
  | .text chars => textLengths chars text
  | .oneOf set => (places text).map fun p => if p.2.any set.contains then 2 else 0
  | .anchor condition word =>
    (places text).map fun p => if condition.holds word p.1 p.2 then 1 else 0
  | .concat parts => lengthsAfter text ((places text).map fun _ => 1) parts
  | .choice branches => lengthsOr text ((places text).map fun _ => 0) branches
  | .repeat r min none _ =>
    let once := lengths text r
    (once.power min).andThen once.star
  | .repeat r min (some max) _ =>
    let once := lengths text r
    (once.power min).andThen ((once.or once.empty).power (max - min))
  | .capture r => lengths text r

/-- The matches of some expressions in a row after others. -/
def lengthsAfter (text : List Char) (before : Lengths) : List Regex → Lengths
  | [] => before
  | r :: rest => lengthsAfter text (before.andThen (lengths text r)) rest

/-- The matches of any of some expressions, and others. -/
def lengthsOr (text : List Char) (found : Lengths) : List Regex → Lengths
  | [] => found
  | r :: rest => lengthsOr text (found.or (lengths text r)) rest

end

def isMatch (r : Regex) (text : String) : Bool := (r.lengths text.toList).any (· != 0)

end Regex
end TopicFeed
