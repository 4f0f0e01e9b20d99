import Std.Data.HashMap
import TopicFeed.Failure
import TopicFeed.Pattern.Encoding
import TopicFeed.Pattern.Regex
/-! How much room the automata of an expression take, one that reads forward and one that reads
backward. States are numbered as they are made, as the tables of known states depend on it. -/
namespace TopicFeed
namespace Regex

/-- The states of an automaton so far, and the bytes of their lists. -/
structure Room where
  states : Nat := 0
  lists : Nat := 0

namespace Room

def bytes (room : Room) : Nat := 32 * room.states + room.lists

/-- More states, with some bytes of lists. -/
def add (room : Room) (states lists : Nat) : Room := ⟨room.states + states, room.lists + lists⟩

/-- The same states made again and again, until they are too many. -/
def again (make : Room → Room) : Nat → Room → Room
  | 0, room => room
  | n + 1, room => if patternSizeLimit < room.bytes then room else again make n (make room)

end Room

/-- Mixes numbers into a hash of 64 bits. -/
def hash (numbers : List Nat) : Nat :=
  let mixed : UInt64 :=
    numbers.foldl (fun h n => (h ^^^ .ofNat n) * 1099511628211) 14695981039346656037
  mixed.toNat

/-- States by what they do. One that has the place of another takes it over. -/
structure Known where
  size : Nat
  places : Std.HashMap Nat (List Nat × Nat) := {}

/-- The state that does the given, which is made if it is not known, and whether it was. -/
def Known.state (known : Known) (key : List Nat) (fresh : Nat) : Known × Nat × Bool :=
  let place := hash key % known.size
  match known.places[place]?.filter fun entry => entry.1 == key with
  | some (_, state) => (known, state, false)
  | none => ({ known with places := known.places.insert place (key, fresh) }, fresh, true)

/-- Makes the states that read any of some encodings of at most `depth` bytes, the last states
first, and gives the one that begins. -/
def makeForward (target : Nat) (depth : Nat) (encodings : List ByteRanges) (known : Known)
    (room : Room) : Nat × Known × Room :=
  match depth with
  | 0 => (target, known, room)
  | depth + 1 =>
    let step (made : List Nat × Known × Room) (group : List ByteRanges) :=
      let (key, known, room) := made
      match group.head?.bind List.head? with
      | none => made
      | some (first, last) =>
        let (next, known, room) :=
          match (group.map List.tail).filter (!·.isEmpty) with
          | [] => (target, known, room)
          | rests => makeForward target depth rests known room
        (key ++ [first, last, next], known, room)
    let groups := encodings.splitBy fun a b => a.head? == b.head?
    let (key, known, room) := groups.foldl step ([], known, room)
    let (known, state, isNew) := known.state key room.states
    (state, known, if isNew then room.add 1 (8 * groups.length) else room)

/-- Makes the states that read one encoding backward. -/
def makeBackward (made : Nat × Known × Room) (range : Nat × Nat) : Nat × Known × Room :=
  let (target, known, room) := made
  let (known, state, isNew) := known.state [target, range.1, range.2] room.states
  (state, known, if isNew then room.add 1 0 else room)

/-- Makes the states for any character of a set, unless there are too many states already. -/
def makeSet (backward : Bool) (set : CharSet) (room : Room) : Room :=
  if patternSizeLimit < room.bytes then room
  else if set.isAscii then room.add 2 (8 * set.runs.length)
  else if backward then
    let target := room.states + 1
    let step (made : Known × Room) (encoding : ByteRanges) :=
      let (_, known, room) := encoding.foldl makeBackward (target, made)
      (known, room.add 0 4)
    ((encodeSet set).foldl step ({ size := 1000 }, room.add 2 0)).2
  else (makeForward room.states 4 (encodeSet set) { size := 10000 } (room.add 1 0)).2.2

/-- How strings of bytes may go on after some bytes, the latest string first. -/
inductive Trie where
  | nil
  /-- A byte, what may follow it, and what may come in its place. -/
  | edge (byte : Nat) (below beside : Trie)
  /-- The end of a string. What is beside it belongs to strings that came before. -/
  | stop (beside : Trie)

namespace Trie

/-- Adds a string. Only the bytes since the last end of a string can be shared. -/
def insert : List Nat → Trie → Trie
  | [], .stop .nil => .stop .nil
  | [], trie => .stop trie
  | b :: bytes, .edge c below beside =>
    if b = c then .edge c (insert bytes below) beside
    else .edge c below (insert (b :: bytes) beside)
  | b :: bytes, trie => .edge b (insert bytes .nil) trie
termination_by bytes trie => (bytes.length, sizeOf trie)

/-- Whether no string goes on. -/
def isLeaf : Trie → Bool
  | .nil => true
  | .stop .nil => true
  | _ => false

/-- Makes the state for `count` bytes that may come in each other's place. -/
def makeBytes (count : Nat) (room : Room) : Room :=
  if count = 0 then room
  else if count = 1 then room.add 1 4
  else room.add 1 (8 * count + 4)

/-- Makes the states for a trie, after `count` bytes that may come in place of its first. -/
def make (count : Nat) : Trie → Room → Room
  | .nil, room => makeBytes count room
  | .edge _ below beside, room =>
    make (count + 1) beside (if below.isLeaf then room else (make 0 below room).add 1 0)
  | .stop beside, room => make 0 beside ((makeBytes count room).add 0 4)

end Trie

/-- The texts that branches are, if each is one. -/
def textsOf? : List Regex → Option (List (List Char))
  | [] => some []
  | .text chars :: rest => (textsOf? rest).map (chars :: ·)
  | _ => none

def makeTexts (backward : Bool) (texts : List (List Char)) (room : Room) : Room :=
  let insert (trie : Trie) (text : List Char) :=
    let bytes := text.flatMap fun c => encode c.toNat
    trie.insert (if backward then bytes.reverse else bytes)
  (texts.foldl insert .nil).make 0 (room.add 2 0)

mutual

def make (backward : Bool) : Regex → Room → Room
  | .empty, room => room.add 1 0
  | .text chars, room => room.add (chars.foldl (fun n c => n + c.utf8Size) 0) 0
  | .oneOf set, room => makeSet backward set room
  | .anchor _ _, room => room.add 1 0
  | .concat parts, room => if backward then makeLast parts room else makeFirst parts room
  | .choice branches, room =>
    match textsOf? branches with
    | some texts => makeTexts backward texts room
    | none => makeBranches backward 0 branches room
  | .repeat r 0 (some 1) _, room => (make backward r (room.add 1 0)).add 1 8
  | .repeat r min none _, room =>
    if min = 0 then
      if r.leastLength?.any (0 < ·) then make backward r (room.add 1 8)
      else (make backward r room).add 3 16
    else (Room.again (make backward r) min room).add 1 8
  | .repeat r min (some max) _, room =>
    let room := if min = 0 then room.add 1 0 else Room.again (make backward r) min room
    if min = max then room
    else Room.again (fun room => make backward r (room.add 1 8)) (max - min) (room.add 1 0)
  | .capture r, room =>
    if backward then make backward r room else (make backward r (room.add 1 0)).add 1 0

def makeFirst : List Regex → Room → Room
  | [], room => room
  | r :: rest, room => makeFirst rest (make false r room)

/-- Makes the states for some expressions in a row, backward. -/
def makeLast : List Regex → Room → Room
  | [], room => room
  | r :: rest, room => make true r (makeLast rest room)

/-- Makes the states for any of some expressions, of which there were `count` before. The second
one tells that there is a choice. -/
def makeBranches (backward : Bool) (count : Nat) : List Regex → Room → Room
  | [], room => room
  | r :: rest, room =>
    let room := (make backward r room).add (if count = 1 then 2 else 0) 4
    makeBranches backward (count + 1) rest room

end

mutual

/-- Whether a condition stands at the begin of every match, or at the end if `backward`. -/
def isBoundTo (anchor : Anchor) (backward : Bool) : Regex → Bool
  | .anchor condition _ => condition = anchor
  | .concat parts =>
    if backward then isLastBoundTo anchor parts else isFirstBoundTo anchor parts
  | .choice branches => areBoundTo anchor backward branches
  | .repeat r min _ _ => 0 < min && isBoundTo anchor backward r
  | .capture r => isBoundTo anchor backward r
  | _ => false

def isFirstBoundTo (anchor : Anchor) : List Regex → Bool
  | [] => false
  | r :: rest => isBoundTo anchor false r || (r.isEmptyOnly && isFirstBoundTo anchor rest)

def isLastBoundTo (anchor : Anchor) : List Regex → Bool
  | [] => false
  | r :: rest => isLastBoundTo anchor rest || (areEmptyOnly rest && isBoundTo anchor true r)

def areBoundTo (anchor : Anchor) (backward : Bool) : List Regex → Bool
  | [] => true
  | r :: rest => isBoundTo anchor backward r && areBoundTo anchor backward rest

end

/-- The room of the automaton that looks for matches forward. Unless they can only begin at one
place, it first passes over any text. -/
def forwardRoom (r : Regex) : Room :=
  let start : Room := if isBoundTo .textStart false r then ⟨1, 0⟩ else ⟨3, 16⟩
  (make false r (start.add 1 0)).add 2 0

/-- The room of the automaton that looks for matches backward. -/
def backwardRoom (r : Regex) : Room :=
  let start : Room := if isBoundTo .textEnd true r then ⟨1, 0⟩ else ⟨3, 16⟩
  (make true r start).add 1 0

/-- How many texts to choose from are looked for without an automaton. -/
def manyTexts : Nat := 3000

def isTooLarge (r : Regex) : Bool :=
  let isMany :=
    match r with
    | .choice branches => decide (manyTexts ≤ branches.length) && (textsOf? branches).isSome
    | _ => false
  !isMany && (decide (patternSizeLimit < (forwardRoom r).bytes)
    || decide (patternSizeLimit < (backwardRoom r).bytes))

end Regex
end TopicFeed
