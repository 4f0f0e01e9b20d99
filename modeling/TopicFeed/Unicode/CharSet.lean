import TopicFeed.Text.Blank
/-! Sets of characters as runs of code points, and tables that list them. -/
namespace TopicFeed

/-- A set of characters: the first and last code points of its runs, in ascending order and apart
from each other. -/
structure CharSet where
  runs : List (Nat × Nat)
  deriving DecidableEq

namespace CharSet

def maxCode : Nat := 0x10FFFF

def empty : CharSet := ⟨[]⟩

def all : CharSet := ⟨[(0, maxCode)]⟩

def run (first last : Nat) : CharSet := ⟨[(first, last)]⟩

def single (c : Char) : CharSet := run c.toNat c.toNat

def contains (s : CharSet) (c : Char) : Bool :=
  s.runs.any fun r => r.1 ≤ c.toNat && c.toNat ≤ r.2

/-- Joins a run with those after it that touch, when all are in ascending order of their first code
points. -/
def joinRuns (run : Nat × Nat) : List (Nat × Nat) → List (Nat × Nat)
  | [] => [run]
  | next :: rest =>
    if next.1 ≤ run.2 + 1 then joinRuns (run.1, max run.2 next.2) rest
    else run :: joinRuns next rest

def ofRuns (runs : List (Nat × Nat)) : CharSet :=
  match runs.mergeSort fun a b => a.1 ≤ b.1 with
  | [] => ⟨[]⟩
  | run :: rest => ⟨joinRuns run rest⟩

def ofCodes (codes : List Nat) : CharSet := ofRuns (codes.map fun code => (code, code))

def union (s t : CharSet) : CharSet := ofRuns (s.runs ++ t.runs)

def unions (sets : List CharSet) : CharSet := ofRuns (sets.flatMap (·.runs))

/-- The last code point before the surrogates, which are no characters. -/
def lastLow : Nat := 0xD7FF

/-- The first code point after the surrogates. -/
def firstHigh : Nat := 0xE000

def after (code : Nat) : Nat := if code = lastLow then firstHigh else code + 1

/-- The code point of the character before. -/
def before (code : Nat) : Nat := if code = firstHigh then lastLow else code - 1

/-- The characters between ascending runs, from `next` on. -/
def gaps (next : Nat) : List (Nat × Nat) → List (Nat × Nat)
  | [] => if next ≤ maxCode then [(next, maxCode)] else []
  | r :: rest =>
    if next < r.1 then (next, before r.1) :: gaps (after r.2) rest else gaps (after r.2) rest

def complement (s : CharSet) : CharSet := ⟨gaps 0 s.runs⟩

def inter (s t : CharSet) : CharSet := (s.complement.union t.complement).complement

def diff (s t : CharSet) : CharSet := s.inter t.complement

/-- What is in one of two sets only. -/
def symmDiff (s t : CharSet) : CharSet := (s.diff t).union (t.diff s)

/-- Whether the set has ASCII characters only. -/
def isAscii (s : CharSet) : Bool := s.runs.all fun r => r.2 ≤ 0x7F

def base36 (c : Char) : Nat := if c.isDigit then c.toNat - 48 else c.toNat - 87

def number (digits : List Char) : Nat := digits.foldl (fun n c => n * 36 + base36 c) 0

/-- The runs that the words of a table list. Two numbers stand for a run: how far it starts after
the end of the one before, and how far it reaches. A number after an asterisk tells how many more
runs follow of which the same holds. -/
def runsOf (last gap reach : Nat) : List (List Char) → List (Nat × Nat)
  | ('*' :: count) :: rest =>
    let n := number count
    let more := (List.range n).map fun k =>
      let first := last + gap + k * (gap + reach)
      (first, first + reach)
    more ++ runsOf (last + n * (gap + reach)) gap reach rest
  | gap :: reach :: rest =>
    let gap := number gap
    let reach := number reach
    (last + gap, last + gap + reach) :: runsOf (last + gap + reach) gap reach rest
  | _ => []

def ofTable (table : String) : CharSet := ⟨runsOf 0 0 0 (table.toList.splitOn ' ')⟩

def blank : CharSet := ⟨blankRuns⟩

end CharSet
end TopicFeed
