import Mathlib.Data.List.Nodup
import TopicFeed.Proofs.Dialogue
import TopicFeed.Proofs.Enumerator.Exhaustion
import TopicFeed.Proofs.KeySpace.Sharing
/-! What discoveries add up to. A discovery finds the partitions that share a physical partition all
at once, and they become known all at once; the parallelism may have changed since an earlier
one. -/
namespace TopicFeed
namespace KeyLayout

/-- A partition is there with all those it shares a physical partition with, as the layout has them
at one of some parallelisms. -/
def Complete (layout : KeyLayout) (parallelisms : List UInt32) (there : Partition → Prop)
    (p : Partition) : Prop :=
  ∃ topic id, ∃ n ∈ parallelisms, p ∈ Partition.sharing topic id (layout.ranges n) layout.mode ∧
    ∀ q ∈ Partition.sharing topic id (layout.ranges n) layout.mode, there q

variable {layout : KeyLayout} {parallelisms : List UInt32}

theorem Complete.mono {there there' : Partition → Prop} {p : Partition}
    (complete : layout.Complete parallelisms there p) (more : ∀ q, there q → there' q) :
    layout.Complete parallelisms there' p := by
  obtain ⟨topic, id, n, listed, member, all⟩ := complete
  exact ⟨topic, id, n, listed, member, fun q shares => more q (all q shares)⟩

/-- What was found, if anything, is found with all that goes with it. -/
def Found (layout : KeyLayout) (parallelisms : List UInt32) :
    Except Failure (OrderedSet Partition) → Prop
  | .ok found => ∀ p ∈ found, layout.Complete parallelisms (· ∈ found) p
  | .error _ => True

end KeyLayout

namespace Selection

variable {layout : KeyLayout} {parallelisms : List UInt32}

theorem complete_of_partitionsOf {n : UInt32} (listed : n ∈ parallelisms)
    {described : TopicMetadata} {indexes : Option (OrderedSet Int32)} {p : Partition}
    (member : p ∈ partitionsOf described (layout.ranges n) layout.mode indexes) :
    layout.Complete parallelisms
      (· ∈ partitionsOf described (layout.ranges n) layout.mode indexes) p := by
  cases indexes with
  | none =>
      obtain ⟨id, found, shares⟩ := List.mem_flatMap.mp member
      exact ⟨described.name, id, n, listed, shares,
        fun q same => List.mem_flatMap.mpr ⟨id, found, same⟩⟩
  | some indexes =>
      rw [partitionsOf] at member ⊢
      split at member
      · next partitioned =>
        obtain ⟨id, found, shares⟩ := List.mem_flatMap.mp member
        refine ⟨described.name, id, n, listed, shares, fun q same => ?_⟩
        rw [if_pos partitioned]
        exact List.mem_flatMap.mpr ⟨id, found, same⟩
      · exact nomatch member

theorem collect_found {n : UInt32} (listed : n ∈ parallelisms)
    (entries : List (String × Option (OrderedSet Int32))) (found : OrderedSet Partition)
    (complete : layout.Found parallelisms (.ok found)) :
    (collect (layout.ranges n) layout.mode entries found).Meets (fun _ => True)
      (layout.Found parallelisms) := by
  induction entries generalizing found with
  | nil => exact complete
  | cons entry rest ih =>
      obtain ⟨topic, indexes⟩ := entry
      refine (Dialogue.Meets.any (metadata topic)).bind fun answer _ => ?_
      cases answer with
      | error failure => trivial
      | ok described? =>
          cases described? with
          | none => exact ih found complete
          | some described =>
              refine ih _ fun p member => ?_
              rcases OrderedSet.mem_union.mp member with before | new
              · exact (complete p before).mono fun q here => OrderedSet.mem_union.mpr (.inl here)
              · have more := complete_of_partitionsOf listed (OrderedSet.mem_ofList.mp new)
                exact more.mono fun q here =>
                  OrderedSet.mem_union.mpr (.inr (OrderedSet.mem_ofList.mpr here))

theorem partitions_found {n : UInt32} (listed : n ∈ parallelisms) (selection : Selection) :
    (selection.partitions layout n).Meets (fun _ => True) (layout.Found parallelisms) := by
  refine (Dialogue.Meets.any selection.wanted).bind fun answer _ => ?_
  cases answer with
  | error failure => trivial
  | ok wanted => exact collect_found listed wanted.entries ∅ fun _ member => nomatch member

end Selection

/-- What a discovery has found so far is complete, but for what is known already. -/
def Phase.Completes (layout : KeyLayout) (parallelisms : List UInt32)
    (known : OrderedSet Partition) : Phase → Prop
  | .querying query => query.Meets (fun _ => True) (layout.Found parallelisms)
  | .opening opened unopened =>
    ∀ p ∈ opened.map Split.partition ++ unopened, layout.Complete parallelisms
      (fun q => q ∈ opened.map Split.partition ++ unopened ∨ q ∈ known) p

namespace Phase.Completes

variable {layout : KeyLayout} {parallelisms : List UInt32} {known known' : OrderedSet Partition}

theorem mono {phase : Phase} (completes : phase.Completes layout parallelisms known)
    (more : ∀ p ∈ known, p ∈ known') : phase.Completes layout parallelisms known' := by
  cases phase with
  | querying query => exact completes
  | opening opened unopened =>
      exact fun p member => (completes p member).mono fun q => .imp_right (more q)

/-- Of what was found, the unknown goes on, and the rest is known. -/
theorem of_found {found : OrderedSet Partition} (complete : layout.Found parallelisms (.ok found)) :
    (Phase.opening [] (found.toList.filter fun p => !known.contains p)).Completes layout
      parallelisms known := by
  intro p member
  rw [List.map_nil, List.nil_append] at member
  refine (complete p (List.mem_of_mem_filter member)).mono fun q here => ?_
  rw [List.map_nil, List.nil_append, List.mem_filter, Bool.not_eq_true', Bool.eq_false_iff,
    ne_eq, OrderedSet.contains_iff]
  exact (em (q ∈ known)).symm.imp_left fun unknown => ⟨here, unknown⟩

theorem opens {opened : List Split} {partition : Partition} {unopened : List Partition}
    (completes : (Phase.opening opened (partition :: unopened)).Completes layout parallelisms known)
    {split : Split} (same : split.partition = partition) :
    (Phase.opening (opened ++ [split]) unopened).Completes layout parallelisms known := by
  rw [Phase.Completes, List.map_append, List.append_assoc, List.map_singleton, same,
    List.singleton_append]
  exact completes

end Phase.Completes

theorem EnumeratorState.mem_foldl_add {s : EnumeratorState} {splits : List Split} {p : Partition} :
    p ∈ (splits.foldl add s).appended ↔ p ∈ splits.map Split.partition ∨ p ∈ s.appended := by
  induction splits generalizing s with
  | nil => simp
  | cons split rest ih =>
      rw [List.foldl_cons, ih, mem_add_appended, List.map_cons, List.mem_cons, or_left_comm,
        or_assoc]

theorem Split.resolveBy_partition (s : Split) (reply : Except BrokerError MessageId) :
    (s.resolveBy reply).partition = s.partition := by
  cases reply <;> rfl

/-- All that is known is complete, and all that a step of a discovery leads to. -/
def Progress.Completes (layout : KeyLayout) (parallelisms : List UInt32)
    (known : OrderedSet Partition) : Progress → Prop
  | .ask _ next => ∀ reply, (next reply).phase.Completes layout parallelisms known
  | .goOn next => next.phase.Completes layout parallelisms known
  | .finish e _ _ => (∀ p ∈ known, p ∈ e.state.appended) ∧
    ∀ p ∈ e.state.appended, layout.Complete parallelisms (· ∈ e.state.appended) p

section Advance

variable {layout : KeyLayout} {parallelisms : List UInt32} (e : Enumerator) (readers : Readers)

theorem Progress.completes_conclude {middle : Enumerator} {purpose : Purpose}
    {directives : List Directive} {outcome : Except Failure Unit}
    (grown : ∀ p ∈ e.state.appended, p ∈ middle.state.appended)
    (complete : ∀ p ∈ middle.state.appended,
      layout.Complete parallelisms (· ∈ middle.state.appended) p) :
    (middle.conclude readers purpose directives outcome).Completes layout parallelisms
      e.state.appended := by
  obtain ⟨e', told, result, ended⟩ := middle.conclude_finishes readers purpose directives outcome
  obtain ⟨state, _, _⟩ := Enumerator.conclude_finish ended
  rw [ended, Completes, state]
  exact ⟨grown, complete⟩

theorem Enumerator.append_appended (splits : List Split) :
    (e.append readers splits).1.state.appended =
      (splits.foldl EnumeratorState.add e.state).appended :=
  (assignPending_handout
    { e with state := splits.foldl EnumeratorState.add e.state } readers).appended

/-- Once all that was found is known, all that is known is complete. -/
theorem Enumerator.append_complete (complete : ∀ p ∈ e.state.appended,
      layout.Complete parallelisms (· ∈ e.state.appended) p) {opened : List Split}
    (completes : (Phase.opening opened []).Completes layout parallelisms e.state.appended) :
    ∀ p ∈ (e.append readers opened).1.state.appended, layout.Complete parallelisms
      (· ∈ (e.append readers opened).1.state.appended) p := by
  rw [append_appended]
  intro p member
  rcases EnumeratorState.mem_foldl_add.mp member with new | old
  · refine (completes p (List.mem_append_left _ new)).mono fun q here => ?_
    rw [List.append_nil] at here
    exact EnumeratorState.mem_foldl_add.mpr here
  · exact (complete p old).mono fun q here => EnumeratorState.mem_foldl_add.mpr (.inr here)

theorem Enumerator.advance_completes (complete : ∀ p ∈ e.state.appended,
      layout.Complete parallelisms (· ∈ e.state.appended) p) {d : Discovery}
    (completes : d.phase.Completes layout parallelisms e.state.appended) :
    (e.advance readers d).Completes layout parallelisms e.state.appended := by
  have abandoned {purpose : Purpose} {outcome : Except Failure Unit} :
      (e.conclude readers purpose [] outcome).Completes layout parallelisms e.state.appended :=
    Progress.completes_conclude e readers (fun _ => id) complete
  obtain ⟨purpose, phase⟩ := d
  rw [advance]
  cases phase with
  | querying query =>
      cases query with
      | ask question next => exact completes.2
      | done answer =>
          cases answer with
          | error failure => exact abandoned
          | ok found =>
              dsimp only
              split
              · exact abandoned
              · exact Phase.Completes.of_found completes
  | opening opened unopened =>
      cases unopened with
      | nil =>
          dsimp only
          split
          · exact abandoned
          · refine Progress.completes_conclude e readers ?_
              (e.append_complete readers complete completes)
            rw [append_appended]
            exact EnumeratorState.appended_foldl_add opened
      | cons partition unopened =>
          dsimp only
          split
          · exact fun reply => completes.opens (Split.resolveBy_partition _ reply)
          · exact completes.opens rfl

end Advance

namespace Coordinator

variable {layout : KeyLayout} {parallelisms : List UInt32} {c : Coordinator}

/-- All that is known, and all that is being discovered, is complete. -/
structure Completes (layout : KeyLayout) (parallelisms : List UInt32) (c : Coordinator) : Prop where
  follows : c.enumerator.options.layout = layout
  known : ∀ p ∈ c.enumerator.state.appended,
    layout.Complete parallelisms (· ∈ c.enumerator.state.appended) p
  discoveries : ∀ d ∈ c.discoveries,
    d.phase.Completes layout parallelisms c.enumerator.state.appended

namespace Completes

/-- Nothing has become known, and no discovery has begun. -/
theorem congr (completes : c.Completes layout parallelisms) {next : Coordinator}
    (options : next.enumerator.options = c.enumerator.options)
    (known : next.enumerator.state.appended = c.enumerator.state.appended)
    (discoveries : next.discoveries = c.discoveries) : next.Completes layout parallelisms := by
  refine ⟨options ▸ completes.follows, ?_, ?_⟩
  · rw [known]
    exact completes.known
  · rw [known, discoveries]
    exact completes.discoveries

theorem begins (completes : c.Completes layout parallelisms) {n : UInt32}
    (listed : n ∈ parallelisms) (purpose : Purpose) :
    ∀ d ∈ c.discoveries ++ [c.enumerator.discover purpose n],
      d.phase.Completes layout parallelisms c.enumerator.state.appended := by
  intro d member
  rcases List.mem_append.mp member with before | new
  · exact completes.discoveries d before
  · rw [List.mem_singleton.mp new, Enumerator.discover, completes.follows]
    exact Selection.partitions_found listed _

theorem start (completes : c.Completes layout parallelisms) {n : UInt32}
    (listed : n ∈ parallelisms) : (c.start n).next.Completes layout parallelisms := by
  rcases c.start_next n with same | ⟨_, begun⟩
  · rw [same]
    exact completes
  · rw [begun]
    exact ⟨completes.follows, completes.known, completes.begins listed .start⟩

theorem tick (completes : c.Completes layout parallelisms) {n : UInt32}
    (listed : n ∈ parallelisms) : (c.tick n).next.Completes layout parallelisms := by
  rcases c.tick_next n with same | ⟨_, discovers⟩
  · rw [same]
    exact completes
  · rw [discovers]
    exact ⟨completes.follows, completes.known, completes.begins listed .periodic⟩

theorem proceed (completes : c.Completes layout parallelisms) (readers : Readers) {index : Nat}
    (broker : (question : AdminQuestion) → question.Reply) {d : Discovery}
    (found : c.discoveries[index]? = some d) :
    (c.proceed readers index broker d).next.Completes layout parallelisms := by
  have options := (c.proceed_change readers index broker d).course.options
  have advanced := c.enumerator.advance_completes readers completes.known
    (completes.discoveries d (List.mem_of_getElem? found))
  have set {next : Discovery}
      (more : next.phase.Completes layout parallelisms c.enumerator.state.appended) :
      Completes layout parallelisms { c with discoveries := c.discoveries.set index next } := by
    refine ⟨completes.follows, completes.known, fun other member => ?_⟩
    rcases List.mem_or_eq_of_mem_set member with before | rfl
    · exact completes.discoveries other before
    · exact more
  rw [Coordinator.proceed] at options ⊢
  cases step : c.enumerator.advance readers d with
  | ask question next =>
      rw [step] at advanced
      exact set (advanced _)
  | goOn next =>
      rw [step] at advanced
      exact set advanced
  | finish e directives result =>
      rw [step] at advanced options
      refine ⟨options ▸ completes.follows, advanced.2, fun other member => ?_⟩
      exact (completes.discoveries other (List.mem_of_mem_eraseIdx member)).mono advanced.1

theorem perform (completes : c.Completes layout parallelisms) (readers : Readers)
    {operation : Operation} (listed : ∀ n, operation.parallelism? = some n → n ∈ parallelisms) :
    (c.perform readers operation).next.Completes layout parallelisms := by
  have change := c.perform_change readers operation
  cases operation with
  | start n => exact completes.start (listed n rfl)
  | tick n => exact completes.tick (listed n rfl)
  | discovery index broker =>
      rw [perform_discovery]
      cases found : c.discoveries[index]? with
      | none => exact completes
      | some d => exact completes.proceed readers broker found
  | addReader | requestSplit | addSplitsBack | finishSplits | close =>
      exact completes.congr change.course.options (change.appended_eq nofun)
        (c.perform_discoveries readers rfl nofun)

end Completes
end Coordinator
end TopicFeed
