import TopicFeed.Proofs.Selection.Union
/-! Patterns as lists of names. A pattern is asked about the topics of a namespace first; from there
on it is the list of those that it accepts, whatever they were listed as. -/
namespace TopicFeed
namespace Selection
namespace Wanted

variable {w : Wanted} {names topics topics' : List String} {topic : String}

/-- All partitions of some topics. -/
def ofTopics (topics : List String) : Wanted :=
  topics.foldl (fun wanted topic => wanted.insert topic none) ∅

theorem get?_foldl_insert : (topics.foldl (fun w topic => w.insert topic none) w).get? topic =
    if topic ∈ topics then some none else w.get? topic := by
  induction topics generalizing w with
  | nil => simp
  | cons first rest ih =>
      rw [List.foldl_cons, ih, OrderedMap.get?_insert]
      by_cases same : topic = first
      · simp [same]
      · simp [same]

/-- Neither the order of topics nor their repetitions matter. -/
theorem ofTopics_congr (same : ∀ topic, topic ∈ topics ↔ topic ∈ topics') :
    ofTopics topics = ofTopics topics' := by
  refine OrderedMap.eq_of_get? fun topic => ?_
  simp only [ofTopics, get?_foldl_insert, same]

theorem addName_of_whole {name : String} (whole : (TopicName.parent name).2 = none) :
    w.addName name = w.insert (TopicName.parent name).1 none := by
  rw [addName_eq, whole, widen]

theorem ofNames_of_whole (whole : ∀ name ∈ names, (TopicName.parent name).2 = none) :
    ofNames names = ofTopics (names.map fun name => (TopicName.parent name).1) := by
  rw [ofNames, ofTopics, List.foldl_map]
  exact List.foldl_ext _ _ _ fun w name listed => addName_of_whole (whole name listed)

theorem ofListing_eq (accepts : String → Bool) (names : List String) : ofListing accepts names =
    ofTopics ((names.map fun name => (TopicName.parent name).1).filter accepts) := by
  rw [ofTopics, List.foldl_filter, List.foldl_map]
  rfl

end Wanted

variable {space : String} {accepts : String → Bool} {names parents : List String}

/-- What is wanted of the listed topics that a pattern accepts is what their names ask for. -/
theorem ofListing_eq_ofNames
    (matching : ∀ topic, topic ∈ parents ↔
      accepts topic = true ∧ ∃ name ∈ names, (TopicName.parent name).1 = topic)
    (whole : ∀ topic ∈ parents, (TopicName.parent topic).2 = none) :
    Wanted.ofListing accepts names = Wanted.ofNames (parents.map TopicName.complete) := by
  have completed : ∀ topic ∈ parents, TopicName.complete topic = topic := by
    intro topic listed
    obtain ⟨_, name, _, rfl⟩ := (matching topic).mp listed
    exact TopicName.complete_parent name
  have same : ∀ topic ∈ parents, TopicName.parent topic = (topic, none) := by
    intro topic listed
    rw [TopicName.parent_of_whole (whole topic listed), completed topic listed]
  rw [List.map_congr_left completed, List.map_id', Wanted.ofNames_of_whole whole,
    Wanted.ofListing_eq]
  apply Wanted.ofTopics_congr
  intro topic
  rw [List.map_congr_left fun topic listed => congrArg Prod.fst (same topic listed), List.map_id',
    matching, List.mem_filter, List.mem_map, and_comm]

/-- Once its namespace was listed, a pattern goes on like the list of the topics that it accepts:
the same questions follow, and with the same replies the same partitions are found, or it fails in
the same way. -/
theorem pattern_as_names (layout : KeyLayout) (parallelism : UInt32)
    (matching : ∀ topic, topic ∈ parents ↔
      accepts topic = true ∧ ∃ name ∈ names, (TopicName.parent name).1 = topic)
    (whole : ∀ topic ∈ parents, (TopicName.parent topic).2 = none) :
    (∃ next, (pattern space accepts).partitions layout parallelism = .ask (.topics space) next ∧
      next (.ok names) = (ofNames parents).partitions layout parallelism) ∧
    ∀ broker : (question : AdminQuestion) → question.Reply, broker (.topics space) = .ok names →
      ((pattern space accepts).partitions layout parallelism).against broker =
        foundBy broker layout parallelism parents := by
  have goesOn : ∃ next, (pattern space accepts).partitions layout parallelism =
      .ask (.topics space) next ∧
        next (.ok names) = (ofNames parents).partitions layout parallelism := by
    refine ⟨_, rfl, ?_⟩
    change collect _ _ (Wanted.ofListing accepts names).entries ∅ =
      collect _ _ (Wanted.ofNames (parents.map TopicName.complete)).entries ∅
    rw [ofListing_eq_ofNames matching whole]
  refine ⟨goesOn, fun broker listed => ?_⟩
  obtain ⟨next, asks, same⟩ := goesOn
  rw [asks, Dialogue.against_ask, listed, same]
  rfl

end Selection

namespace Sample

/-- Both topics are listed by their partitions, one of them also by its name. -/
def listing : List String :=
  ["persistent://public/default/t-partition-1", "persistent://public/default/u-partition-0",
    "persistent://public/default/t-partition-0", "persistent://public/default/t"]

def ofT (name : String) : Bool := name == "persistent://public/default/t"

end Sample

theorem Selection.pattern_as_names_listing :
    (TopicName.parent "persistent://public/default/t").2 = none ∧
      ∃ next, (Selection.pattern "public/default" Sample.ofT).partitions .whole 1 =
        .ask (.topics "public/default") next ∧
        next (.ok Sample.listing) =
          (Selection.ofNames ["persistent://public/default/t"]).partitions .whole 1 := by
  have parents : Sample.listing.map (fun name => (TopicName.parent name).1) =
      ["persistent://public/default/t", "persistent://public/default/u",
        "persistent://public/default/t", "persistent://public/default/t"] := by
    decide +kernel
  have unsplit : (TopicName.parent "persistent://public/default/t").2 = none := by
    decide +kernel
  have matching : ∀ topic, topic ∈ ["persistent://public/default/t"] ↔
      Sample.ofT topic = true ∧ ∃ name ∈ Sample.listing, (TopicName.parent name).1 = topic := by
    intro topic
    rw [← List.mem_map, parents, Sample.ofT, beq_iff_eq, List.mem_singleton]
    constructor
    · rintro rfl
      exact ⟨rfl, List.mem_cons_self⟩
    · exact fun accepted => accepted.1
  have whole : ∀ topic ∈ ["persistent://public/default/t"],
      (TopicName.parent topic).2 = none := by
    intro topic listed
    rw [List.mem_singleton.mp listed, unsplit]
  exact ⟨unsplit, (Selection.pattern_as_names .whole 1 matching whole).1⟩

end TopicFeed
