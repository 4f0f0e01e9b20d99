import TopicFeed.Proofs.Collection
import TopicFeed.Proofs.Enumerator.Lifecycle
import TopicFeed.Proofs.Enumerator.Shares
/-! Discoveries as single steps. A machine whose discoveries do nothing but ask, and are taken in as
a whole in the turn in which they end, and what the answers tell of a discovery that goes on step
by step. -/
namespace TopicFeed

open Dialogue

namespace EnumeratorState

/-- Takes in what a discovery found. Only the splits of partitions that are still unknown are
added. -/
def merge (s : EnumeratorState) (found : OrderedSet Partition) (opened : List Split) :
    EnumeratorState where
  appended := s.appended.union found
  pending := s.pending ++ opened.filter fun split => !s.appended.contains split.partition
  finished := s.finished

variable {s : EnumeratorState} {opened : List Split}

theorem foldl_add_pending (once : (opened.map Split.partition).Nodup) :
    (opened.foldl add s).pending =
      s.pending ++ opened.filter fun split => !s.appended.contains split.partition := by
  induction opened generalizing s with
  | nil => exact (List.append_nil _).symm
  | cons split rest ih =>
      obtain ⟨apart, once⟩ := List.nodup_cons.mp once
      rw [List.foldl_cons, ih once]
      by_cases known : split.partition ∈ s.appended
      · rw [add_of_known known, List.filter_cons_of_neg]
        simpa using OrderedSet.contains_iff.mpr known
      · -- later splits have other partitions, so this one makes none of theirs known
        have others : (rest.filter fun later =>
            !(s.appended.insert split.partition).contains later.partition) =
              rest.filter fun later => !s.appended.contains later.partition := by
          refine List.filter_congr fun later member => congrArg _ (Bool.eq_iff_iff.mpr ?_)
          rw [OrderedSet.contains_iff, OrderedSet.contains_iff, OrderedSet.mem_insert]
          refine or_iff_right fun same => apart ?_
          exact same ▸ List.mem_map_of_mem member
        rw [add_of_unknown known, List.filter_cons_of_pos, others, List.append_assoc]
        · rfl
        · simpa using mt OrderedSet.contains_iff.mp known

/-- What is added after a discovery is what is unknown by then, if nothing was left out before that
is. -/
theorem foldl_add_eq_merge {found : OrderedSet Partition}
    (order : (opened.map Split.partition).Sublist found.toList)
    (covers : ∀ p ∈ found, p ∉ s.appended → p ∈ opened.map Split.partition) :
    opened.foldl add s = s.merge found opened := by
  have once : (opened.map Split.partition).Nodup := by
    refine List.Pairwise.sublist order (found.ascending.imp fun less same => ?_)
    rw [same, Std.compare_self] at less
    exact nomatch less
  have appended : (opened.foldl add s).appended = s.appended.union found := by
    refine OrderedSet.eq_of_mem_iff fun p => ?_
    rw [mem_foldl_add, OrderedSet.mem_union]
    constructor
    · rintro (new | old)
      · exact .inr (order.subset new)
      · exact .inl old
    · rintro (old | new)
      · exact .inr old
      · exact (em (p ∈ s.appended)).symm.imp_left (covers p new)
  obtain ⟨_, _, _, finished⟩ := s.foldl_add opened
  exact EnumeratorState.ext appended (foldl_add_pending once) finished

end EnumeratorState

namespace Enumerator

variable (e : Enumerator)

/-- Resolves the end of the split of a partition. If that fails, it is left to the reader. -/
def openSplit (partition : Partition) : Query Split :=
  (e.splitOf partition).opened.bind fun outcome =>
    .done (outcome.toOption.getD (e.splitOf partition))

def openSplits : List Partition → Query (List Split)
  | [] => .done []
  | partition :: rest =>
    (e.openSplit partition).bind fun split => (openSplits rest).bind fun splits =>
      .done (split :: splits)

/-- Takes in what a discovery found, and hands out what waits. -/
def merge (readers : Readers) (found : OrderedSet Partition) (opened : List Split) :
    Enumerator × List Directive :=
  { e with state := e.state.merge found opened }.assignPending readers

variable {e} {partition : Partition} {partitions : List Partition}

theorem openSplit_of_resolving (unresolved : (e.splitOf partition).stopCursor.needsResolving = true)
    (reply : Except BrokerError MessageId) : (e.openSplit partition).Yields
      [⟨.lastMessageId partition.fullName, reply⟩] ((e.splitOf partition).resolveBy reply) := by
  rw [openSplit, Split.opened, if_pos unresolved]
  cases reply <;> exact .ask (.done _)

theorem openSplit_of_resolved
    (resolved : ¬(e.splitOf partition).stopCursor.needsResolving = true) :
    (e.openSplit partition).Yields [] (e.splitOf partition) := by
  rw [openSplit, Split.opened, if_neg resolved]
  exact .done _

theorem openSplits_append {first rest : Dialogue.Transcript AdminQuestion.Reply}
    {splits : List Split} {split : Split} (opened : (e.openSplits partitions).Yields first splits)
    (last : (e.openSplit partition).Yields rest split) :
    (e.openSplits (partitions ++ [partition])).Yields (first ++ rest) (splits ++ [split]) := by
  induction partitions generalizing first splits with
  | nil =>
      obtain ⟨rfl, rfl⟩ := yields_done.mp opened
      exact yields_bind.mpr ⟨split, rest, [], (List.append_nil _).symm, last, .done _⟩
  | cons before later ih =>
      obtain ⟨head, start, _, rfl, opens, tail⟩ := yields_bind.mp opened
      obtain ⟨others, middle, _, rfl, follow, ended⟩ := yields_bind.mp tail
      obtain ⟨rfl, rfl⟩ := yields_done.mp ended
      refine yields_bind.mpr ⟨head, start, middle ++ rest, ?_, opens, ?_⟩
      · rw [List.append_nil, List.append_assoc]
      · exact yields_bind.mpr ⟨others ++ [split], middle ++ rest, [], (List.append_nil _).symm,
          ih follow, .done _⟩

theorem openSplits_congr {e' : Enumerator} (options : e'.options = e.options)
    (partitions : List Partition) : e'.openSplits partitions = e.openSplits partitions := by
  have split (p : Partition) : e'.openSplit p = e.openSplit p := by
    rw [openSplit, splitOf, options, openSplit, splitOf]
  induction partitions with
  | nil => rfl
  | cons p rest ih => rw [openSplits, split, ih, openSplits]

theorem conclude_error (e : Enumerator) (readers : Readers) (purpose : Purpose)
    (failure : Failure) : ∃ result,
      e.conclude readers purpose [] (.error failure) = .finish e [] result := by
  unfold conclude
  split <;> exact ⟨_, rfl⟩

end Enumerator

/-- A discovery as what it sets out to ask, and the answers it got. -/
structure Survey where
  purpose : Purpose
  query : Query (Except Failure (OrderedSet Partition))
  answers : Dialogue.Transcript AdminQuestion.Reply

namespace Survey

def told (v : Survey) (question : AdminQuestion) (reply : question.Reply) : Survey :=
  { v with answers := v.answers ++ [⟨question, reply⟩] }

/-- A discovery that has just begun. -/
def discovery (v : Survey) : Discovery := ⟨v.purpose, .querying v.query⟩

/-- The answers tell which partitions were found, and the ends of some of their splits. The splits
of those that are unknown are opened, or still to be opened. -/
structure Learns (v : Survey) (e : Enumerator) (found : OrderedSet Partition) (opened : List Split)
    (unopened : List Partition) : Prop where
  answered : ∃ first rest, v.answers = first ++ rest ∧ v.query.Yields first (.ok found) ∧
    (e.openSplits (opened.map Split.partition)).Yields rest opened
  order : (opened.map Split.partition ++ unopened).Sublist found.toList
  covers : ∀ p ∈ found, p ∉ e.state.appended → p ∈ opened.map Split.partition ++ unopened

end Survey

/-- An enumerator, and the discoveries under way. -/
structure Serial where
  enumerator : Enumerator
  surveys : List Survey

namespace Serial

def ofState (options : EnumeratorOptions) (state : EnumeratorState) : Serial :=
  ⟨.ofState options state, []⟩

def coordinator (s : Serial) : Coordinator := ⟨s.enumerator, s.surveys.map Survey.discovery⟩

/-- What may happen, and what is asked meanwhile. Discoveries do nothing but gather answers, until
they are over; only one that is taken in as a whole changes anything or tells anybody. -/
inductive Step (s : Serial) : Option AdminQuestion → Event → Serial → Prop
  /-- Somebody calls, which may begin another discovery. -/
  | called {operation readers begun} : (∀ index broker, operation ≠ .discovery index broker) →
      (s.coordinator.perform readers operation).next.discoveries =
        (s.surveys ++ begun).map Survey.discovery →
      (∀ v ∈ begun, v.answers = []) →
      Step s none (s.coordinator.event readers operation)
        ⟨(s.coordinator.perform readers operation).next.enumerator, s.surveys ++ begun⟩
  /-- A discovery goes on without asking. -/
  | waited {index broker readers} : Step s none ⟨.discovery index broker, readers, [], none⟩ s
  | asked {index broker readers v} (question : AdminQuestion) : s.surveys[index]? = some v →
      Step s (some question) ⟨.discovery index broker, readers, [], none⟩
        { s with surveys := s.surveys.set index (v.told question (broker question)) }
  /-- The partitions cannot be told. -/
  | failed {index broker readers v failure result} : s.surveys[index]? = some v →
      v.query.Yields v.answers (.error failure) →
      s.enumerator.conclude readers v.purpose [] (.error failure) =
        .finish s.enumerator [] result →
      Step s none
        ⟨.discovery index broker, readers, [], if v.purpose = .start then some result else none⟩
        { s with surveys := s.surveys.eraseIdx index }
  | refused {index broker readers} : s.enumerator.lifecycle = .closed →
      Step s none ⟨.discovery index broker, readers, [], none⟩
        { s with surveys := s.surveys.eraseIdx index }
  /-- What was found by all the answers is taken in at once. -/
  | merged {index broker readers v found opened e directives result} :
      s.surveys[index]? = some v → s.enumerator.lifecycle ≠ .closed →
      v.Learns s.enumerator found opened [] →
      (s.enumerator.merge readers found opened).1.conclude readers v.purpose
        (s.enumerator.merge readers found opened).2 (.ok ()) = .finish e directives result →
      Step s none ⟨.discovery index broker, readers, directives,
        if v.purpose = .start then some result else none⟩ ⟨e, s.surveys.eraseIdx index⟩

theorem Step.of_waited {s : Serial} {index : Nat}
    {broker : (question : AdminQuestion) → question.Reply} {readers : Readers} {v : Survey}
    (here : s.surveys[index]? = some v) : s.Step none ⟨.discovery index broker, readers, [], none⟩
      { s with surveys := s.surveys.set index v } := by
  obtain ⟨within, rfl⟩ := List.getElem?_eq_some_iff.mp here
  rw [List.set_getElem_self]
  exact .waited

end Serial

/-- What the answers so far lead to is what the discovery goes on with. -/
def Phase.Continues (e : Enumerator) (v : Survey) : Phase → Prop
  | .querying query => ∀ rest answer, query.Yields rest answer →
    v.query.Yields (v.answers ++ rest) answer
  | .opening opened unopened => ∃ found, v.Learns e found opened unopened

section Continues

variable {e e' : Enumerator} {v : Survey} {found : OrderedSet Partition} {opened : List Split}
  {partition : Partition} {unopened : List Partition}

theorem Survey.Learns.mono (learns : v.Learns e found opened unopened)
    (options : e'.options = e.options) (grown : ∀ p ∈ e.state.appended, p ∈ e'.state.appended) :
    v.Learns e' found opened unopened where
  answered := by
    rw [Enumerator.openSplits_congr options]
    exact learns.answered
  order := learns.order
  covers := fun p member unknown => learns.covers p member fun known => unknown (grown p known)

theorem Phase.Continues.mono {phase : Phase} (continues : phase.Continues e v)
    (options : e'.options = e.options) (grown : ∀ p ∈ e.state.appended, p ∈ e'.state.appended) :
    phase.Continues e' v := by
  cases phase with
  | querying query => exact continues
  | opening opened unopened =>
      obtain ⟨found, learns⟩ := continues
      exact ⟨found, learns.mono options grown⟩

theorem Phase.Continues.ask {question : AdminQuestion}
    {next : question.Reply → Query (Except Failure (OrderedSet Partition))}
    (continues : (Phase.querying (.ask question next)).Continues e v) (reply : question.Reply) :
    (Phase.querying (next reply)).Continues e (v.told question reply) := by
  intro rest answer yields
  rw [Survey.told, List.append_assoc]
  exact continues _ answer (.ask yields)

/-- The partitions that were found are left to be opened, but for those that are known. -/
theorem Phase.Continues.learns (continues : (Phase.querying (.done (.ok found))).Continues e v) :
    v.Learns e found [] (found.toList.filter fun p => !e.state.appended.contains p) where
  answered := by
    have answered := continues [] (.ok found) (.done _)
    rw [List.append_nil] at answered
    exact ⟨v.answers, [], (List.append_nil _).symm, answered, .done _⟩
  order := List.filter_sublist
  covers := by
    intro p member unknown
    refine List.mem_filter.mpr ⟨member, ?_⟩
    simpa using mt OrderedSet.contains_iff.mp unknown

theorem Survey.Learns.opens (learns : v.Learns e found opened (partition :: unopened))
    (later : Survey) (query : later.query = v.query)
    {more : Dialogue.Transcript AdminQuestion.Reply} (answers : later.answers = v.answers ++ more)
    {split : Split} (same : split.partition = partition)
    (yields : (e.openSplit partition).Yields more split) :
    later.Learns e found (opened ++ [split]) unopened := by
  have reordered : (opened ++ [split]).map Split.partition ++ unopened =
      opened.map Split.partition ++ partition :: unopened := by
    rw [List.map_append, List.append_assoc, List.map_singleton, same, List.singleton_append]
  obtain ⟨first, rest, whole, asked, opens⟩ := learns.answered
  refine ⟨⟨first, rest ++ more, ?_, query ▸ asked, ?_⟩, ?_, ?_⟩
  · rw [answers, whole, List.append_assoc]
  · rw [List.map_append, List.map_singleton, same]
    exact Enumerator.openSplits_append opens yields
  · rw [reordered]
    exact learns.order
  · rw [reordered]
    exact learns.covers

end Continues

end TopicFeed
