import TopicFeed.Pattern.Automaton
import TopicFeed.Pattern.Bracket
import TopicFeed.Pattern.Match
/-! Reading regular expressions. Groups that are still open wait on a stack. -/
namespace TopicFeed
namespace Regex

/-- How deep groups, repetitions, classes, sequences and alternatives may be nested. -/
def depthLimit : Nat := 250

/-- A part of a pattern. -/
structure Item where
  /-- Missing for a change of flags, which matches nothing and cannot be repeated. -/
  regex : Option Regex
  /-- How deep it is nested. -/
  depth : Nat

def greatestDepth (items : List Item) : Nat := items.foldl (fun d i => Nat.max d i.depth) 0

/-- The part of a group read so far: its finished alternatives and the items of the current one,
both in reverse. -/
structure Group where
  /-- The flags outside of the group. -/
  outside : Flags
  isCapture : Bool
  alternatives : List Item := []
  items : List Item := []

/-- The item that items in reverse make. -/
def sequence (items : List Item) : Item :=
  let regex := ofParts (items.filterMap (·.regex)).reverse
  match items with
  | _ :: _ :: _ => ⟨some regex, greatestDepth items + 1⟩
  | _ => ⟨some regex, greatestDepth items⟩

namespace Group

def inside (g : Group) : Item :=
  match sequence g.items :: g.alternatives with
  | [item] => item
  | items =>
    ⟨some (ofBranches (items.filterMap (·.regex)).reverse), greatestDepth items + 1⟩

def finish (g : Group) : Item :=
  let inside := g.inside
  ⟨if g.isCapture then inside.regex.map .capture else inside.regex, inside.depth + 1⟩

def push (g : Group) (item : Item) : Group := { g with items := item :: g.items }

def endAlternative (g : Group) : Group :=
  { g with alternatives := sequence g.items :: g.alternatives, items := [] }

/-- Repeats the last item. -/
def repeatLast? (g : Group) (min : Nat) (max : Option Nat) (lazy : Bool) : Option Group :=
  match g.items with
  | ⟨some r, depth⟩ :: rest =>
    some { g with items := ⟨some (ofRepeat r min max lazy), depth + 1⟩ :: rest }
  | _ => none

end Group

def bound? (flags : Flags) (chars : List Char) : Option (Nat × List Char) :=
  let (digits, rest) := flags.span Char.isDigit false (chars.dropWhile isBlank)
  let n := Nat.ofDigitChars 10 digits 0
  if digits.isEmpty || UInt32.size ≤ n then none else some (n, rest.dropWhile isBlank)

/-- Reads the bounds of a repetition after its brace. -/
def bounds? (flags : Flags) (chars : List Char) : Option ((Nat × Option Nat) × List Char) := do
  let (min, rest) ← bound? flags (flags.next chars)
  match rest with
  | '}' :: rest => return ((min, some min), rest)
  | ',' :: rest =>
    match flags.next rest with
    | '}' :: rest => return ((min, none), rest)
    | rest =>
      let (max, rest) ← bound? flags rest
      match rest with
      | '}' :: rest => if min ≤ max then return ((min, some max), rest) else none
      | _ => none
  | _ => none

/-- Reads the mark of a repetition that takes as little as it can, or as much if that is what
repetitions do without it. -/
def lazyMark (flags : Flags) : List Char → Bool × List Char
  | '?' :: rest => (!flags.lazy, rest)
  | rest => (flags.lazy, rest)

def setFlag? (flags : Flags) (on : Bool) : Char → Option Flags
  | 'i' => some { flags with caseless := on }
  | 'm' => some { flags with multiline := on }
  | 's' => some { flags with dotAll := on }
  | 'U' => some { flags with lazy := on }
  | 'u' => some { flags with unicode := on }
  | 'x' => some { flags with verbose := on }
  | 'R' => some { flags with crlf := on }
  | _ => none

/-- Reads flags up to a colon or a closing parenthesis, which is left. -/
def flags? (flags : Flags) (seen : List Char) (on : Bool) : List Char → Option (Flags × List Char)
  | [] => none
  | c :: rest =>
    if c = ':' ∨ c = ')' then
      if seen.head? = some '-' ∨ (seen.isEmpty ∧ c = ')') then none else some (flags, c :: rest)
    else if seen.contains c then none
    else if c = '-' then flags? flags (c :: seen) false rest
    else do flags? (← setFlag? flags on c) (c :: seen) on rest

def isGroupName (name : List Char) : Bool :=
  let letters := Unicode.alphabetic
  let numbers := Unicode.Category.charsOf Unicode.Category.numbers
  match name with
  | [] => false
  | c :: rest =>
    (c == '_' || letters.contains c) &&
      rest.all fun c => ['_', '.', '[', ']'].contains c || letters.contains c || numbers.contains c

/-- What an opening parenthesis starts. -/
inductive Opening where
  /-- A group that cannot be asked for, and the flags in it. -/
  | group (flags : Flags)
  /-- A group that can be asked for, and its name if it has one. -/
  | capture (name : Option (List Char))
  /-- Flags for the rest of the group around them. -/
  | flags (flags : Flags)

def groupName? (chars : List Char) : Option (Opening × List Char) :=
  let name := chars.takeWhile (· != '>')
  match chars.dropWhile (· != '>') with
  | '>' :: rest => if isGroupName name then some (.capture (some name), rest) else none
  | _ => none

/-- Reads what stands after an opening parenthesis. Looking around is not supported. -/
def opening? (flags : Flags) : List Char → Option (Opening × List Char)
  | '?' :: '=' :: _ | '?' :: '!' :: _ | '?' :: '<' :: '=' :: _ | '?' :: '<' :: '!' :: _ => none
  | '?' :: 'P' :: '<' :: rest => groupName? rest
  | '?' :: '<' :: rest => groupName? rest
  | '?' :: rest =>
    match flags? flags [] true rest with
    | some (inner, ':' :: rest) => some (.group inner, rest)
    | some (inner, ')' :: rest) => some (.flags inner, rest)
    | _ => none
  | rest => some (.capture none, rest)

/-- The expression for any character, line breaks included or not. -/
def dot? (flags : Flags) : Option Regex :=
  if !flags.unicode then none
  else if flags.dotAll then some (.oneOf .all)
  else
    let breaks : CharSet := if flags.crlf then ⟨[(0xA, 0xA), (0xD, 0xD)]⟩ else .single '\n'
    some (.oneOf breaks.complement)

def edge (flags : Flags) (text line crlf : Anchor) : Regex :=
  ofAnchor (if !flags.multiline then text else if flags.crlf then crlf else line) flags.word

/-- The expression for a character. Without Unicode, one that is written as a byte of its own has
to be ASCII. -/
def literal? (flags : Flags) (c : Char) (byte : Bool) : Option Regex :=
  if byte && !flags.unicode && 0x7F < c.toNat then none else some (ofSet (flags.close (.single c)))

/-- Reads on, in at most `limit` steps. -/
def read? (limit : Nat) (flags : Flags) (names : List (List Char)) (g : Group)
    (outer : List Group) (chars : List Char) : Option Item :=
  match limit with
  | 0 => none
  | limit + 1 =>
    let push (r : Regex) (depth : Nat) (rest : List Char) :=
      read? limit flags names (g.push ⟨some r, depth⟩) outer rest
    let again (min : Nat) (max : Option Nat) (rest : List Char) := do
      let (lazy, rest) := lazyMark flags rest
      read? limit flags names (← g.repeatLast? min max lazy) outer rest
    match flags.next chars with
    | [] => if outer.isEmpty then some g.inside else none
    | '(' :: rest => do
      let (opening, rest) ← opening? flags (flags.next rest)
      match opening with
      | .flags inner => read? limit inner names (g.push ⟨none, 0⟩) outer rest
      | .group inner => read? limit inner names ⟨flags, false, [], []⟩ (g :: outer) rest
      | .capture none => read? limit flags names ⟨flags, true, [], []⟩ (g :: outer) rest
      | .capture (some name) =>
        if names.contains name then none
        else read? limit flags (name :: names) ⟨flags, true, [], []⟩ (g :: outer) rest
    | ')' :: rest =>
      match outer with
      | [] => none
      | next :: outer =>
        let group := g.finish
        if depthLimit < group.depth then none
        else read? limit g.outside names (next.push group) outer rest
    | '|' :: rest => read? limit flags names g.endAlternative outer rest
    | '[' :: rest => do
      let ((set, depth), rest) ← bracket? flags rest
      push (ofSet set) depth rest
    | '?' :: rest => again 0 (some 1) rest
    | '*' :: rest => again 0 none rest
    | '+' :: rest => again 1 none rest
    | '{' :: rest => do
      let ((min, max), rest) ← bounds? flags rest
      again min max (flags.next rest)
    | '\\' :: rest => do
      let (escape, rest) ← escape? flags rest
      match escape with
      | .literal c byte => push (← literal? flags c byte) 0 rest
      | .set set => push (ofSet set) 0 rest
      | .anchor condition => push (ofAnchor condition flags.word) 0 rest
    | '.' :: rest => do push (← dot? flags) 0 rest
    | '^' :: rest => push (edge flags .textStart .lineStart .crlfStart) 0 rest
    | '$' :: rest => push (edge flags .textEnd .lineEnd .crlfEnd) 0 rest
    | c :: rest => do push (← literal? flags c false) 0 rest

def parse (pattern : String) : Except Failure Regex :=
  let chars := pattern.toList
  match read? (chars.length + 1) {} [] ⟨{}, false, [], []⟩ [] chars with
  | some ⟨some r, depth⟩ =>
    if depthLimit < depth then .error (.invalidPattern pattern .malformed)
    else if isTooLarge r then .error (.invalidPattern pattern .tooLarge)
    else .ok r
  | _ => .error (.invalidPattern pattern .malformed)

end Regex
end TopicFeed
