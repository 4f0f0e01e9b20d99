import TopicFeed.Collection.OrderedMap
import TopicFeed.Failure
import TopicFeed.Pattern.Parser
/-! Which topics a source consumes, and what partitions they have at the moment. -/
namespace TopicFeed

/-- The topics a source consumes. -/
inductive Selection where
  /-- Topics, or single partitions of topics, by their complete names. -/
  | topics (names : List String)
  /-- The topics of a namespace whose complete names are accepted. -/
  | pattern (space : String) (accepts : String → Bool)

namespace Selection

def ofNames (names : List String) : Selection := .topics (names.map TopicName.complete)

/-- The topics of a namespace that match a regular expression somewhere in their names. -/
def ofPattern (space pattern : String) : Except Failure Selection := do
  let regex ← Regex.parse pattern
  return .pattern space regex.isMatch

/-- The indexes of the wanted partitions for each topic, `none` where all are wanted. -/
abbrev Wanted := OrderedMap String (Option (OrderedSet Int32))

namespace Wanted

/-- Adds what a name stands for. All partitions include any. -/
def addName (wanted : Wanted) (name : String) : Wanted :=
  match TopicName.parent name with
  | (topic, none) => wanted.insert topic none
  | (topic, some index) =>
    match wanted.get? topic with
    | none => wanted.insert topic (some (.ofList [index]))
    | some none => wanted
    | some (some indexes) => wanted.insert topic (some (indexes.insert index))

def ofNames (names : List String) : Wanted := names.foldl addName ∅

/-- Adds the topic that a listed name belongs to, if it is accepted. -/
def addListed (accepts : String → Bool) (wanted : Wanted) (name : String) : Wanted :=
  let topic := (TopicName.parent name).1
  if accepts topic then wanted.insert topic none else wanted

def ofListing (accepts : String → Bool) (names : List String) : Wanted :=
  names.foldl (addListed accepts) ∅

end Wanted

/-- Asks for the description of a topic. A missing topic is no failure, it may come later. -/
def metadata (topic : String) : Query (Except Failure (Option TopicMetadata)) :=
  .ask (.metadata topic) fun
    | .ok found => .done (.ok (some found))
    | .error (.notFound _) => .done (.ok none)
    | .error cause => .done (.error (.topicMetadata topic cause))

/-- The wanted partitions of a topic. Indexes that it does not have are left out. -/
def partitionsOf (found : TopicMetadata) (ranges : List KeyRange) (mode : ShareMode) :
    Option (OrderedSet Int32) → List Partition
  | none => found.partitions ranges mode
  | some indexes =>
    if found.isPartitioned then
      (indexes.toList.filter fun i => i.toInt < (found.partitionCount.toNat : Int)).flatMap fun i =>
        Partition.sharing found.name i ranges mode
    else []

/-- Asks for one topic after the other, adding to the partitions found before. -/
def collect (ranges : List KeyRange) (mode : ShareMode) :
    List (String × Option (OrderedSet Int32)) → OrderedSet Partition →
      Query (Except Failure (OrderedSet Partition))
  | [], found => .done (.ok found)
  | (topic, indexes) :: rest, found =>
    (metadata topic).bind fun
      | .ok (some described) =>
        let more := OrderedSet.ofList (partitionsOf described ranges mode indexes)
        collect ranges mode rest (found.union more)
      | .ok none => collect ranges mode rest found
      | .error failure => .done (.error failure)

def wanted : Selection → Query (Except Failure Wanted)
  | .topics names => .done (.ok (.ofNames names))
  | .pattern space accepts =>
    .ask (.topics space) fun
      | .ok names => .done (.ok (.ofListing accepts names))
      | .error cause => .done (.error (.listTopics space cause))

/-- Asks for the current partitions of the selected topics. Topics that do not exist are left
out. -/
def partitions (selection : Selection) (layout : KeyLayout) (parallelism : UInt32) :
    Query (Except Failure (OrderedSet Partition)) :=
  selection.wanted.bind fun
    | .ok wanted => collect (layout.ranges parallelism) layout.mode wanted.entries ∅
    | .error failure => .done (.error failure)

end Selection
end TopicFeed
