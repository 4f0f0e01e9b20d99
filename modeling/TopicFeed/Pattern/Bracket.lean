import TopicFeed.Pattern.Escape
/-! Bracketed classes of regular expressions, with ranges, nested classes and set operations. -/
namespace TopicFeed
namespace Regex

/-- An operation between two sets of a class. -/
inductive SetOp where
  | inter
  | diff
  | symmetric

def SetOp.apply : SetOp → CharSet → CharSet → CharSet
  | .inter, s, t => s.inter t
  | .diff, s, t => s.diff t
  | .symmetric, s, t => s.symmDiff t

def asciiNamed? : String → Option CharSet
  | "alnum" => some ⟨[(0x30, 0x39), (0x41, 0x5A), (0x61, 0x7A)]⟩
  | "alpha" => some ⟨[(0x41, 0x5A), (0x61, 0x7A)]⟩
  | "ascii" => some (.run 0 0x7F)
  | "blank" => some ⟨[(0x9, 0x9), (0x20, 0x20)]⟩
  | "cntrl" => some ⟨[(0, 0x1F), (0x7F, 0x7F)]⟩
  | "digit" => some asciiDigit
  | "graph" => some (.run 0x21 0x7E)
  | "lower" => some (.run 0x61 0x7A)
  | "print" => some (.run 0x20 0x7E)
  | "punct" => some ⟨[(0x21, 0x2F), (0x3A, 0x40), (0x5B, 0x60), (0x7B, 0x7E)]⟩
  | "space" => some asciiBlank
  | "upper" => some (.run 0x41 0x5A)
  | "word" => some asciiWord
  | "xdigit" => some ⟨[(0x30, 0x39), (0x41, 0x46), (0x61, 0x66)]⟩
  | _ => none

/-- Reads a named ASCII class such as `[:alpha:]`, after its first two characters. -/
def asciiClass? (flags : Flags) (chars : List Char) : Option (Option CharSet × List Char) :=
  let (negated, chars) :=
    match chars with
    | '^' :: rest => (true, rest)
    | _ => (false, chars)
  match chars.dropWhile (· != ':') with
  | ':' :: ']' :: rest => do
    let set := flags.close (← asciiNamed? (.ofList (chars.takeWhile (· != ':'))))
    return (if negated then flags.others? set else some set, rest)
  | _ => none

/-- Reads a character of a class, or a class in it that an escape names. Without Unicode a class
has ASCII characters only. -/
def classItem? (flags : Flags) (chars : List Char) : Option (Escape × List Char) :=
  let item : Option (Escape × List Char) :=
    match chars with
    | [] => none
    | '\\' :: rest => escape? flags rest
    | c :: rest => some (.literal c false, rest)
  match item with
  | some (.literal c _, _) => if flags.unicode || c.toNat ≤ 0x7F then item else none
  | some (.anchor _, _) => none
  | _ => item

/-- The character after a dash that tells whether it stands for itself: the first that is no blank.
If a comment starts there, it is the first in the comment. -/
def peek? (flags : Flags) (chars : List Char) : Option Char :=
  if !flags.verbose then chars.head?
  else
    match chars.dropWhile isBlank with
    | '#' :: rest => (rest.dropWhile isBlank).head?
    | rest => rest.head?

/-- Reads a character, a range of characters or a class that an escape names. A class is no bound
of a range. -/
def classRange? (flags : Flags) (chars : List Char) : Option (CharSet × List Char) := do
  let (first, rest) ← classItem? flags chars
  let alone (rest : List Char) : Option (CharSet × List Char) :=
    match first with
    | .literal c _ => some (flags.close (.single c), rest)
    | .set set => some (set, rest)
    | .anchor _ => none
  match flags.next rest with
  | '-' :: more =>
    if peek? flags more = some ']' ∨ peek? flags more = some '-' then alone ('-' :: more)
    else
      match first, ← classItem? flags (flags.next more) with
      | .literal c _, (.literal d _, rest) =>
        if c ≤ d then some (flags.close (.run c.toNat d.toNat), rest) else none
      | _, _ => none
  | rest => alone rest

/-- The items of a class since its begin or its last operation: their union, how many there are,
and how deep the deepest is nested. -/
structure Items where
  set : CharSet := .empty
  count : Nat := 0
  deepest : Nat := 0

def Items.add (items : Items) (set : CharSet) (depth : Nat) : Items :=
  ⟨items.set.union set, items.count + 1, Nat.max items.deepest depth⟩

/-- How deep the items are nested together: two or more are one level deeper. -/
def Items.depth (items : Items) : Nat :=
  if 2 ≤ items.count then items.deepest + 1 else items.deepest

/-- A class part way through: whether its complement is meant, what an operation waits to be
applied to, with its depth, and the items after it. -/
structure ClassFrame where
  negated : Bool
  before : Option (CharSet × Nat × SetOp)
  items : Items

/-- The set read so far, and how deep it is nested. -/
def ClassFrame.value (f : ClassFrame) : CharSet × Nat :=
  match f.before with
  | none => (f.items.set, f.items.depth)
  | some (set, depth, op) => (op.apply set f.items.set, Nat.max depth f.items.depth + 1)

/-- Splits off the dashes, and the bracket, that stand for themselves at the begin of a class. -/
def classStart (flags : Flags) (chars : List Char) : Items × List Char :=
  match flags.span (· == '-') false chars with
  | ([], ']' :: rest) => (Items.add {} (.single ']') 0, flags.next rest)
  | (dashes, rest) => (dashes.foldl (fun items c => items.add (.single c) 0) {}, rest)

/-- Opens a class after its bracket. -/
def openClass (flags : Flags) (chars : List Char) : ClassFrame × List Char :=
  match flags.next chars with
  | '^' :: rest =>
    let (items, rest) := classStart flags rest
    (⟨true, none, items⟩, rest)
  | rest =>
    let (items, rest) := classStart flags rest
    (⟨false, none, items⟩, rest)

/-- Reads on in a class that is inside of others, in at most `limit` steps, and gives its set and
how deep it is nested. -/
def class? (flags : Flags) (limit : Nat) (frame : ClassFrame) (outer : List ClassFrame)
    (chars : List Char) : Option ((CharSet × Nat) × List Char) :=
  match limit with
  | 0 => none
  | limit + 1 =>
    let add (set : CharSet) (rest : List Char) :=
      class? flags limit { frame with items := frame.items.add set 0 } outer rest
    let operate (op : SetOp) (rest : List Char) :=
      let (set, depth) := frame.value
      class? flags limit { frame with before := some (set, depth, op), items := {} } outer rest
    let nested (chars : List Char) :=
      let (inner, rest) := openClass flags chars
      class? flags limit inner (frame :: outer) rest
    match flags.next chars with
    | [] => none
    | ']' :: rest => do
      let (set, depth) := frame.value
      let set ← if frame.negated then flags.others? set else some set
      match outer with
      | [] => return ((set, depth + 1), rest)
      | next :: outer =>
        class? flags limit { next with items := next.items.add set (depth + 1) } outer rest
    | '[' :: ':' :: rest =>
      match asciiClass? flags rest with
      | some (set?, rest) => do add (← set?) rest
      | none => nested (':' :: rest)
    | '[' :: rest => nested rest
    | '&' :: '&' :: rest => operate .inter rest
    | '-' :: '-' :: rest => operate .diff rest
    | '~' :: '~' :: rest => operate .symmetric rest
    | rest => do
      let (set, rest) ← classRange? flags rest
      add set rest

/-- Reads a class after its bracket, and gives its set and how deep it is nested. -/
def bracket? (flags : Flags) (chars : List Char) : Option ((CharSet × Nat) × List Char) :=
  let (frame, rest) := openClass flags chars
  class? flags (chars.length + 1) frame [] rest

end Regex
end TopicFeed
