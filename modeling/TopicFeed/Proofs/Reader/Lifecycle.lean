import Mathlib.Data.List.Nodup
import TopicFeed.Proofs.Reader.Source
/-! The life of a reader of many splits, from its making to its closing. A split is held until its
end is reported; then it is put away for good, and an addition that has it again is refused. -/
namespace TopicFeed

open Dialogue

/-- The consumers that were asked for. -/
def Transcript.subscriptions (t : Transcript) : List ConsumerOptions :=
  t.filterMap fun e =>
    match e.1 with
    | .subscribe options => some options
    | _ => none

theorem Transcript.subscriptions_append (t u : Transcript) :
    (t ++ u).subscriptions = t.subscriptions ++ u.subscriptions := List.filterMap_append

theorem Transcript.subscriptions_of_admin {t : Transcript}
    (admin : ∀ e ∈ t, ∃ question, e.1 = .admin question) : t.subscriptions = [] := by
  apply List.filterMap_eq_nil_iff.mpr
  intro e member
  obtain ⟨question, asked⟩ := admin e member
  simp only [asked]

/-- A batch brings records of the split that is read. -/
theorem ActiveSplit.Advance.records_of {context : ReaderContext} {active active' : ActiveSplit}
    {asked : Transcript} {records : Records} {splitId : String}
    (h : active.Advance context (.fetch asked (.ok records)) active')
    (other : splitId ≠ active.split.id) : records.of splitId = [] := by
  cases h with
  | idle => cases active.finishReported <;> rfl
  | batch _ _ batch =>
      obtain ⟨taken, rest, acknowledger, _, _, exit⟩ := batch.exits
      cases exit with
      | paused | beyond | last => exact Records.of_ofSplit (by simpa using other) _

namespace SplitReader

/-- The reader has a split. -/
def IsOpen (reader : SplitReader) : Prop := ∃ context active, reader = reading context active

theorem IsOpen.snapshot {reader : SplitReader} (opened : reader.IsOpen) (checkpoint : UInt64) :
    (reader.snapshot checkpoint).1.IsOpen := by
  obtain ⟨context, active, rfl⟩ := opened
  exact ⟨context, _, rfl⟩

theorem IsOpen.complete {reader reader' : SplitReader} {checkpoint : UInt64} {asked : Transcript}
    {outcome : Except Failure Unit} (opened : reader.IsOpen)
    (h : (reader.checkpointComplete checkpoint).Yields asked (reader', outcome)) :
    reader'.IsOpen := by
  obtain ⟨context, active, rfl⟩ := opened
  obtain ⟨active', rfl, _⟩ := step_advance (.complete h)
  exact ⟨context, active', rfl⟩

variable {context : ReaderContext} {split : Split} {t : Transcript}

theorem Opening.subscriptions {opened : ActiveSplit} (h : Opening context split t opened) :
    t.subscriptions = [consumerOptions context split.partition] := by
  obtain ⟨questions, now, admin, rfl⟩ := h.asked
  rw [Transcript.subscriptions_append, Transcript.subscriptions_of_admin admin, h.partition]
  rfl

theorem Refusal.subscriptions (h : Refusal context split t) :
    t.subscriptions <+: [consumerOptions context split.partition] := by
  cases h with
  | early admin =>
      rw [Transcript.subscriptions_of_admin admin]
      exact List.nil_prefix
  | unsubscribed admin | unmoved admin =>
      rw [Transcript.subscriptions_append, Transcript.subscriptions_of_admin admin]
      exact List.prefix_rfl

end SplitReader

namespace SourceReader

namespace Call

def asked : Call → Transcript
  | add _ _ asked _ | fetch asked _ | complete _ asked _ => asked
  | snapshot _ _ | noMoreSplits => []

theorem reported_nodup (call : Call) : call.reported.Nodup := by
  cases call with
  | fetch asked outcome =>
      cases outcome with
      | error failure => exact List.nodup_nil
      | ok records => exact records.finished.nodup_toList
  | _ => exact List.nodup_nil

end Call

/-- What happens to a reader: its calls, and that it is closed. -/
inductive Event where
  | call (call : Call)
  | close (asked : Transcript)

namespace Event

def asked : Event → Transcript
  | .call inner => inner.asked
  | .close asked => asked

def reported : Event → List String
  | .call inner => inner.reported
  | .close _ => []

end Event

inductive Occurs : SourceReader → Event → SourceReader → Prop
  | call {r r' : SourceReader} {call : Call} : Step r call r' → Occurs r (.call call) r'
  | close {r r' : SourceReader} {asked} : r.close.Yields asked r' → Occurs r (.close asked) r'

inductive Closing (r : SourceReader) : Transcript → SourceReader → Prop
  | again : r.closed = true → Closing r [] r
  | first {asked} : r.closed = false →
      (closeEach (r.readers.entries ++ r.retiring.entries)).Yields asked () →
      Closing r asked { r with closed := true, readers := ∅, retiring := ∅ }

variable {r r' : SourceReader} {asked : Transcript} {splitId : String}

theorem close_closing (h : r.close.Yields asked r') : Closing r asked r' := by
  rw [close] at h
  split at h
  · next closed =>
    obtain ⟨rfl, rfl⟩ := yields_done.mp h
    exact .again closed
  · next opened =>
    obtain ⟨_, first, rest, rfl, closes, final⟩ := yields_bind.mp h
    obtain ⟨rfl, rfl⟩ := yields_done.mp final
    rw [List.append_nil]
    exact .first (by simpa using opened) closes

/-! A reader keeps its context. -/

theorem Turn.context {outcome : Except Failure Records} (turn : Turn r asked outcome r') :
    r'.context = r.context := by
  cases turn with
  | ends _ _ _ _ retirement => cases retirement <;> rfl
  | _ => rfl

theorem Intake.context {splits : List Split} {outcome : Except Failure Unit}
    (intake : Intake r splits asked r' outcome) : r'.context = r.context := by
  induction intake with
  | next _ _ _ ih => exact ih
  | _ => rfl

theorem Intake.retiring {splits : List Split} {outcome : Except Failure Unit}
    (intake : Intake r splits asked r' outcome) : r'.retiring = r.retiring := by
  induction intake with
  | next _ _ _ ih => exact ih
  | _ => rfl

theorem Occurs.context {event : Event} (occurs : Occurs r event r') : r'.context = r.context := by
  cases occurs with
  | close h => cases close_closing h <;> rfl
  | call step =>
      cases step with
      | snapshot | noMoreSplits => rfl
      | fetch h => exact (fetch_turn h).context
      | complete h => cases checkpointComplete_completion h <;> rfl
      | add h =>
          rcases addSplits_intake h with ⟨_, _, rfl, _⟩ | ⟨_, intake⟩
          · rfl
          · exact intake.context

theorem context_of_run {id : UInt32} {context : ReaderContext} {events : List Event}
    (run : Runs Occurs (.new id context) events r) : r.context = context := by
  apply run.traced (P := fun _ r => r.context = context)
  · rfl
  · intro before event after r r' _ kept occurs
    exact occurs.context.trans kept

/-- Only splits whose ends are reported retire. -/
theorem Step.retiring {call : Call} (step : Step r call r') (held : Unreported r.readers)
    (retires : r'.retiring.contains splitId = true) :
    r.retiring.contains splitId = true ∨ splitId ∈ call.reported := by
  cases step with
  | noMoreSplits => exact .inl retires
  | snapshot =>
      left
      simpa [SourceReader.snapshot, OrderedMap.contains] using retires
  | add h =>
      rcases addSplits_intake h with ⟨_, _, rfl, _⟩ | ⟨_, intake⟩
      · exact .inl retires
      · rw [intake.retiring] at retires
        exact .inl retires
  | complete h =>
      cases checkpointComplete_completion h with
      | heldFails => exact .inl retires
      | retiringFails _ round =>
          rw [round.contains (contains_of_entries _)] at retires
          exact .inl retires
      | succeeds _ round =>
          obtain ⟨reader, found⟩ := Option.isSome_iff_exists.mp retires
          have before := ((OrderedMap.get?_filter_eq_some_iff ..).mp found).1
          have known := OrderedMap.contains_of_get? _ _ before
          rw [round.contains (contains_of_entries _)] at known
          exact .inl known
  | fetch h =>
      cases fetch_turn h with
      | ends _ here fetched ended retirement =>
          cases retirement with
          | closed => exact .inl retires
          | kept =>
              have reports := (held _ _ here).reports fetched ended
              rw [OrderedMap.contains_insert, Bool.or_eq_true, beq_iff_eq] at retires
              rcases retires with rfl | before
              · right
                rw [Call.reported, reports]
                exact List.mem_cons_self
              · exact .inl before
      | _ => exact .inl retires

theorem Step.waiting {call : Call} (step : Step r call r') (held : Unreported r.readers)
    (waiting : Each (fun _ reader => reader.IsOpen) r.retiring) :
    Each (fun _ reader => reader.IsOpen) r'.retiring := by
  cases step with
  | noMoreSplits => exact waiting
  | snapshot =>
      intro id reader found
      obtain ⟨before, here, rfl⟩ : ∃ before, r.retiring.get? id = some before ∧
          (before.snapshot _).1 = reader := by simpa [SourceReader.snapshot] using found
      exact (waiting id before here).snapshot _
  | add h =>
      rcases addSplits_intake h with ⟨_, _, rfl, _⟩ | ⟨_, intake⟩
      · exact waiting
      · rw [intake.retiring]
        exact waiting
  | complete h =>
      have told {readers readers' : SplitReaders} {t : Transcript} {c : UInt64} {outcome}
          (round : Round c readers.entries readers t readers' outcome)
          (all : Each (fun _ reader => reader.IsOpen) readers) :
          Each (fun _ reader => reader.IsOpen) readers' :=
        round.each (fun here told => here.complete told) (each_of_entries all) all
      cases checkpointComplete_completion h with
      | heldFails => exact waiting
      | retiringFails _ round => exact told round waiting
      | succeeds _ round =>
          intro id reader found
          exact told round waiting id reader ((OrderedMap.get?_filter_eq_some_iff ..).mp found).1
  | fetch h =>
      cases fetch_turn h with
      | ends _ here fetched _ retirement =>
          cases retirement with
          | closed => exact waiting
          | kept =>
              obtain ⟨context, active, same, _⟩ := (held _ _ here).fetch fetched
              exact waiting.insert ⟨context, active, same⟩
      | _ => exact waiting

/-- A reader that is closed takes no more splits, and asks for nothing. -/
theorem Step.shut {call : Call} (step : Step r call r') (closed : r.closed = true)
    (readers : r.readers = ∅) (retiring : r.retiring = ∅) :
    r'.readers = ∅ ∧ r'.retiring = ∅ ∧ call.asked = [] := by
  have still {c : UInt64} {readers readers' : SplitReaders} {t : Transcript} {outcome}
      (round : Round c readers.entries readers t readers' outcome) (none : readers = ∅) :
      readers' = ∅ ∧ t = [] := by
    subst none
    cases round
    exact ⟨rfl, rfl⟩
  cases step with
  | noMoreSplits => exact ⟨readers, retiring, rfl⟩
  | snapshot =>
      rw [SourceReader.snapshot, readers, retiring]
      exact ⟨rfl, rfl, rfl⟩
  | add h =>
      rcases addSplits_intake h with ⟨_, rfl, rfl, _⟩ | ⟨opened, _⟩
      · exact ⟨readers, retiring, rfl⟩
      · exact absurd (opened.symm.trans closed) Bool.false_ne_true
  | complete h =>
      cases checkpointComplete_completion h with
      | heldFails round =>
          obtain ⟨none, silent⟩ := still round readers
          exact ⟨none, retiring, silent⟩
      | retiringFails round later =>
          obtain ⟨none, silent⟩ := still round readers
          obtain ⟨none', silent'⟩ := still later retiring
          exact ⟨none, none', List.append_eq_nil_iff.mpr ⟨silent, silent'⟩⟩
      | succeeds round later closes =>
          obtain ⟨none, silent⟩ := still round readers
          obtain ⟨none', silent'⟩ := still later retiring
          rw [none'] at closes ⊢
          obtain ⟨rfl, _⟩ := yields_done.mp closes
          refine ⟨none, rfl, ?_⟩
          rw [silent, silent']
          rfl
  | fetch h =>
      cases fetch_turn h with
      | closed => exact ⟨readers, retiring, rfl⟩
      | none opened | failed opened | goesOn opened | ends opened =>
          exact absurd (opened.symm.trans closed) Bool.false_ne_true

/-- A split that is known is refused, and no consumer is made for it nor for any after it. -/
theorem Intake.refuses {splits : List Split} {outcome : Except Failure Unit}
    (intake : Intake r splits asked r' outcome)
    (known : r.readers.contains splitId = true ∨ r.finished.contains splitId = true)
    (among : splitId ∈ splits.map Split.id) :
    outcome.isOk = false ∧ asked.subscriptions <+:
      (splits.takeWhile fun split => split.id != splitId).map fun split =>
        SplitReader.consumerOptions r.context split.partition := by
  have other {r : SourceReader} {split : Split}
      (known : r.readers.contains splitId = true ∨ r.finished.contains splitId = true)
      (unknown : (r.readers.contains split.id || r.finished.contains split.id) = false) :
      (split.id != splitId) = true := by
    rw [bne_iff_ne]
    rintro rfl
    simp_all
  induction intake with
  | ended => exact nomatch among
  | known => exact ⟨rfl, List.nil_prefix⟩
  | refused unknown opens =>
      refine ⟨rfl, ?_⟩
      rw [List.takeWhile_cons, if_pos (other known unknown), List.map_cons]
      exact (SplitReader.changeSplits_refusal opens).subscriptions.trans
        (List.cons_prefix_cons.mpr ⟨rfl, List.nil_prefix⟩)
  | @next r _ split _ _ opened _ _ unknown opens _ ih =>
      have apart := other known unknown
      obtain ⟨_, _, opening⟩ := SplitReader.changeSplits_opening opens
      have later : splitId ∈ _ := (List.mem_cons.mp among).resolve_left fun same =>
        bne_iff_ne.mp apart same.symm
      obtain ⟨fails, subscribed⟩ := ih (known.imp_left fun held => by simp [held]) later
      refine ⟨fails, ?_⟩
      rw [Transcript.subscriptions_append, opening.subscriptions, List.takeWhile_cons, if_pos apart,
        List.map_cons, List.singleton_append]
      exact List.cons_prefix_cons.mpr ⟨rfl, subscribed⟩

/-- Fetches bring records only of splits that are held. -/
theorem Turn.records_of {records : Records} (turn : Turn r asked (.ok records) r')
    (held : Unreported r.readers) (away : r.readers.contains splitId = false) :
    records.of splitId = [] := by
  have brought {id : String} {reader reader' : SplitReader} {t : Transcript}
      (here : r.readers.get? id = some reader)
      (fetched : reader.fetch.Yields t (reader', .ok records)) : records.of splitId = [] := by
    obtain ⟨context, active, rfl, same, _⟩ := held id reader here
    obtain ⟨_, _, advance⟩ := SplitReader.step_advance (.fetch fetched)
    apply advance.records_of
    rintro rfl
    rw [same] at away
    exact nomatch away.symm.trans (r.readers.contains_of_get? id here)
  cases turn with
  | none => rfl
  | goesOn _ here fetched | ends _ here fetched => exact brought here fetched

/-- The splits whose ends are reported in a life. -/
def reportedAmong (events : List Event) : List String := events.flatMap Event.reported

/-- Where the splits of a reader are after some events. -/
structure Standing (events : List Event) (r : SourceReader) : Prop where
  held : Unreported r.readers
  finished : ∀ id, r.finished.contains id = true ↔ id ∈ reportedAmong events
  running : ∀ id, r.readers.contains id = true → r.finished.contains id = false
  retired : ∀ id, r.retiring.contains id = true → r.finished.contains id = true
  once : (reportedAmong events).Nodup
  waiting : Each (fun _ reader => reader.IsOpen) r.retiring
  closed : r.closed = true ↔ ∃ asked, .close asked ∈ events
  shut : r.closed = true → r.readers = ∅ ∧ r.retiring = ∅

variable {events : List Event}

theorem Standing.call {call : Call} (standing : Standing events r) (step : Step r call r') :
    Standing (events ++ [.call call]) r' := by
  have effect := step.effect standing.held
  have reported : reportedAmong (events ++ [.call call]) =
      reportedAmong events ++ call.reported := by
    simp [reportedAmong, Event.reported]
  refine ⟨effect.held, ?_, ?_, ?_, ?_, step.waiting standing.held standing.waiting, ?_, ?_⟩
  · intro id
    rw [effect.finished, standing.finished, reported, List.mem_append]
  · intro id known
    rw [← Bool.not_eq_true, effect.finished]
    rintro (before | here)
    · rcases (effect.contains id).mp known with ⟨held, _⟩ | gained
      · exact nomatch (standing.running id held).symm.trans before
      · exact nomatch (effect.fresh id gained).2.symm.trans before
    · rcases (effect.contains id).mp known with ⟨_, kept⟩ | gained
      · exact kept here
      · exact nomatch (effect.fresh id gained).1.symm.trans (effect.reported id here)
  · intro id retires
    rw [effect.finished]
    exact (step.retiring standing.held retires).imp_left (standing.retired id)
  · rw [reported]
    refine standing.once.append call.reported_nodup ?_
    intro id before here
    have held := effect.reported id here
    exact nomatch (standing.running id held).symm.trans ((standing.finished id).mpr before)
  · rw [effect.closed, standing.closed]
    simp
  · intro closed
    rw [effect.closed] at closed
    obtain ⟨readers, retiring⟩ := standing.shut closed
    obtain ⟨none, none', _⟩ := step.shut closed readers retiring
    exact ⟨none, none'⟩

theorem Standing.concat {event : Event} (standing : Standing events r)
    (occurs : Occurs r event r') : Standing (events ++ [event]) r' := by
  cases occurs with
  | call step => exact standing.call step
  | @close _ asked h =>
      have quiet : reportedAmong (events ++ [.close asked]) = reportedAmong events := by
        simp [reportedAmong, Event.reported]
      obtain ⟨held, finished, running, retired, once, waiting, _, shut⟩ := standing
      rw [← quiet] at finished once
      have ended : ∃ asked', Event.close asked' ∈ events ++ [.close asked] :=
        ⟨asked, List.mem_append_right _ List.mem_cons_self⟩
      cases close_closing h with
      | again closed =>
          exact ⟨held, finished, running, retired, once, waiting, iff_of_true closed ended, shut⟩
      | first => exact ⟨fun _ _ => nofun, finished, fun _ => nofun, fun _ => nofun, once,
          fun _ _ => nofun, iff_of_true rfl ended, fun _ => ⟨rfl, rfl⟩⟩

theorem standing_of_run {id : UInt32} {context : ReaderContext}
    (run : Runs Occurs (.new id context) events r) : Standing events r := by
  apply run.traced
  · exact ⟨fun _ _ => nofun, fun _ => ⟨nofun, nofun⟩, fun _ => nofun, fun _ => nofun,
      List.nodup_nil, fun _ _ => nofun, iff_of_false nofun (by simp), nofun⟩
  · intro before event after r r' _ standing occurs
    exact standing.concat occurs

/-- A call in which something is asked is made before the reader is closed. -/
theorem Standing.opened {call : Call} (standing : Standing events r) (step : Step r call r')
    (asks : call.asked ≠ []) : ∀ asked, .close asked ∉ events ++ [.call call] := by
  intro asked among
  have closed : r.closed = true := standing.closed.mpr ⟨asked, by simpa using among⟩
  obtain ⟨readers, retiring⟩ := standing.shut closed
  exact asks (step.shut closed readers retiring).2.2

end SourceReader

open SourceReader (Occurs Event reportedAmong)

/-- A reader of many splits, and all that has happened to it since it was made. -/
structure Lifetime where
  id : UInt32
  context : ReaderContext
  events : List Event
  reader : SourceReader
  runs : Runs Occurs (.new id context) events reader

namespace Lifetime

variable (s : Lifetime)

/-- What happens after the end of a split was reported happens to a reader that put it away. -/
theorem put_away {before after : List Event} {event later : Event} {id : String}
    (whole : s.events = before ++ event :: after) (reported : id ∈ event.reported)
    (member : later ∈ after) : ∃ r r', Occurs r later r' ∧
      SourceReader.Unreported r.readers ∧ r.context = s.context ∧
      r.readers.contains id = false ∧ r.finished.contains id = true := by
  obtain ⟨between, rest, rfl⟩ := List.append_of_mem member
  have run := s.runs
  rw [whole, ← List.cons_append, ← List.append_assoc] at run
  obtain ⟨r, r', first, occurs⟩ := run.step_at
  have there := SourceReader.standing_of_run first
  have finished : r.finished.contains id = true := by
    rw [there.finished]
    simp [reportedAmong, reported]
  refine ⟨r, r', occurs, there.held, SourceReader.context_of_run first, ?_, finished⟩
  by_contra held
  exact nomatch (there.running id (by simpa using held)).symm.trans finished

/-- A split that is held has not finished, and one that retires has. The end of each split is
reported once at most. After that no fetch brings a record of it, and an addition that has it fails
before a consumer is made for it. -/
theorem finishes_once :
    (∀ id, s.reader.readers.contains id = true → s.reader.retiring.contains id = false ∧
      s.reader.finished.contains id = false) ∧
    (∀ id, s.reader.retiring.contains id = true → s.reader.finished.contains id = true) ∧
    (reportedAmong s.events).Nodup ∧
    ∀ before event after id, s.events = before ++ event :: after → id ∈ event.reported →
      (∀ asked records, .call (.fetch asked (.ok records)) ∈ after → records.of id = []) ∧
      ∀ splits gained asked outcome, .call (.add splits gained asked outcome) ∈ after →
        id ∈ splits.map Split.id → outcome.isOk = false ∧ asked.subscriptions <+:
          (splits.takeWhile fun split => split.id != id).map fun split =>
            SplitReader.consumerOptions s.context split.partition := by
  have standing := SourceReader.standing_of_run s.runs
  refine ⟨?_, standing.retired, standing.once, ?_⟩
  · intro id held
    have running := standing.running id held
    refine ⟨?_, running⟩
    by_contra retires
    exact nomatch running.symm.trans (standing.retired id (by simpa using retires))
  intro before event after id whole reported
  constructor
  · intro asked records member
    obtain ⟨r, r', occurs, held, _, apart, _⟩ := s.put_away whole reported member
    cases occurs with
    | call step =>
        cases step with
        | fetch h => exact (SourceReader.fetch_turn h).records_of held apart
  · intro splits gained asked outcome member among
    obtain ⟨r, r', occurs, _, context, _, finished⟩ := s.put_away whole reported member
    cases occurs with
    | call step =>
        cases step with
        | add h =>
            rcases SourceReader.addSplits_intake h with ⟨_, rfl, _, rfl⟩ | ⟨_, intake⟩
            · exact ⟨rfl, List.nil_prefix⟩
            · rw [← context]
              exact intake.refuses (.inr finished) among

end Lifetime

namespace Sample

/-- Messages are left to the completion of checkpoints. -/
def deferring : ReaderContext := ⟨{ configuration with autoAcknowledge := false }, false⟩

/-- A split that ends after its first message. -/
def short : Split :=
  .fresh ⟨"a", Partition.unpartitioned, [.full], .split⟩ .earliest (.afterMessage (message 0).id)

def endless : Split := .fresh ⟨"b", Partition.unpartitioned, [.full], .split⟩ .earliest .never

def opens (split : Split) (consumer : ConsumerId) : Transcript :=
  [⟨.subscribe (SplitReader.consumerOptions deferring split.partition), .ok consumer⟩,
    ⟨.seek consumer split.seekPosition, .ok ()⟩, ⟨.time, .zero⟩]

def polls (consumer : ConsumerId) (receipt : Receipt) : Transcript :=
  [⟨.isWoken, false⟩, ⟨.time, .zero⟩, ⟨.receive consumer (.ofMilliseconds 100), receipt⟩]

/-- One of two splits finishes. A checkpoint completes at the second attempt only; then the split
is put away. -/
def retiring : Lifetime where
  id := 0
  context := deferring
  events := [
    .call (.add [short, endless] [short.id, endless.id] (opens short ⟨0⟩ ++ opens endless ⟨1⟩)
      (.ok ())),
    .call (.fetch (fetching ++ polls ⟨0⟩ (.message (message 0)))
      (.ok ((Records.ofSplit short.id [message 0]).markFinished short.id))),
    .call (.fetch (fetching ++ polls ⟨1⟩ (.message (message 0)) ++ polls ⟨1⟩ .nothing)
      (.ok (.ofSplit endless.id [message 0]))),
    .call (.add [short] [] [] (.error (.splitAlreadyAssigned short.id))),
    .call (.snapshot 1 [endless.recordConsumed (message 0).id]),
    .call (.complete 1 [⟨.acknowledge ⟨1⟩ (message 0).id, .error .interrupted⟩]
      (.error (.acknowledge endless.id (message 0).id .interrupted))),
    .call (.complete 1 [⟨.acknowledge ⟨1⟩ (message 0).id, .ok ()⟩,
      ⟨.acknowledge ⟨0⟩ (message 0).id, .ok ()⟩, ⟨.time, .zero⟩, ⟨.close ⟨0⟩, .ok ()⟩] (.ok ()))]
  reader := _
  runs :=
    .cons (.call (.add (.ask (.ask (.ask (.ask (.ask (.ask (.done _))))))) (by decide))) <|
    .cons (.call (.fetch (.ask (.ask (.ask (.ask (.ask (.done _)))))))) <|
    .cons (.call (.fetch (.ask (.ask (.ask (.ask (.ask (.ask (.ask (.ask (.done _))))))))))) <|
    .cons (.call (.add (.done _) (by decide))) <|
    .cons (.call .snapshot) <|
    .cons (.call (.complete (.ask (.done _)))) <|
    .cons (.call (.complete (.ask (.ask (.ask (.ask (.done _))))))) <| .nil _

/-- The other split is open until the reader is closed. -/
def ended : Lifetime where
  id := 0
  context := deferring
  events := retiring.events ++ [.close [⟨.time, .zero⟩, ⟨.close ⟨1⟩, .error .alreadyClosed⟩]]
  reader := _
  runs := retiring.runs.append
    (show Runs Occurs retiring.reader [.close _] _ from
      .cons (.close (.ask (.ask (.done _)))) (.nil _))

end Sample

theorem Lifetime.finishes_once_retiring :
    reportedAmong Sample.retiring.events = [Sample.short.id] ∧
      (reportedAmong Sample.retiring.events).Nodup ∧
      (Records.ofSplit Sample.endless.id [Sample.message 0]).of Sample.short.id = [] ∧
      ∀ gained asked outcome,
        .call (.add [Sample.short] gained asked outcome) ∈ Sample.retiring.events.drop 2 →
          outcome.isOk = false ∧ asked.subscriptions = [] := by
  obtain ⟨_, _, once, later⟩ := Sample.retiring.finishes_once
  have whole : Sample.retiring.events = Sample.retiring.events.take 1 ++ _ ::
    Sample.retiring.events.drop 2 := rfl
  obtain ⟨none, refused⟩ := later _ _ _ Sample.short.id whole List.mem_cons_self
  refine ⟨rfl, once, none _ _ List.mem_cons_self, ?_⟩
  intro gained asked outcome member
  obtain ⟨fails, made⟩ := refused _ _ _ _ member List.mem_cons_self
  exact ⟨fails, List.prefix_nil.mp made⟩

end TopicFeed
