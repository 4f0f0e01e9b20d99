import TopicFeed.Proofs.Reader.StopLaw
import TopicFeed.Reader.SourceReader
/-! A reader of many splits. Each split that it holds stands as it was opened or as fetches have
left it, and goes when a fetch reports its end. `Effect` says what a call does to the splits
held. -/
namespace TopicFeed

open Dialogue

/-- The end of the split has not been reported, and is not known unless there was nothing to
read. -/
structure ActiveSplit.Unreported (active : ActiveSplit) (splitId : String) : Prop where
  splitId : active.split.id = splitId
  finished : active.finished = active.split.stopCursor.isExhausted
  unreported : active.finishReported = false

/-- What a fetch leaves of a split whose end has not been reported. -/
inductive ActiveSplit.Fetched (splitId : String) : Except Failure Records → ActiveSplit → Prop
  | failed {failure active} : active.Unreported splitId → Fetched splitId (.error failure) active
  | goesOn {records active} : active.finished = false → active.Unreported splitId →
      records.finished.toList = [] → Fetched splitId (.ok records) active
  | ends {records active} : active.finished = true → records.finished.toList = [splitId] →
      Fetched splitId (.ok records) active

namespace ActiveSplit

variable {context : ReaderContext} {active active' : ActiveSplit} {splitId : String}
  {asked : Transcript} {outcome : Except Failure Records}

theorem Advance.failed {failure : Failure}
    (h : active.Advance context (.fetch asked (.error failure)) active')
    (here : active.Unreported splitId) : active'.Unreported splitId := by
  obtain ⟨same, finished, unreported⟩ := here
  cases h with
  | batch _ _ batch =>
      obtain ⟨taken, rest, acknowledger, _, _, exit⟩ := batch.exits
      cases exit with
      | refused | unacknowledged =>
          refine ⟨(Split.recordAll_id ..).trans same, finished.trans ?_, unreported⟩
          exact congrArg StopCursor.isExhausted (Split.recordAll_stopCursor ..).symm

theorem Advance.fetched (h : active.Advance context (.fetch asked outcome) active')
    (here : active.Unreported splitId) : Fetched splitId outcome active' := by
  cases outcome with
  | error failure => exact .failed (h.failed here)
  | ok records =>
      obtain ⟨rfl, finished, unreported⟩ := here
      cases known : active.finished with
      | true =>
          cases h with
          | idle =>
              rw [unreported]
              exact .ends known rfl
          | batch unfinished => exact nomatch known.symm.trans unfinished
      | false =>
          have headway := h.headway known unreported rfl
          have reports : records.finished.toList = _ := headway.reports
          cases ended : active'.finished with
          | true =>
              rw [ended] at reports
              exact .ends ended reports
          | false =>
              rw [ended] at reports
              refine .goesOn ended ⟨headway.splitId, ?_, headway.finishReported.trans ended⟩ reports
              rw [ended, headway.stopCursor, ← finished, known]

end ActiveSplit

namespace SplitReader

/-- The reader is open for a split whose end it has not reported. -/
def Unreported (reader : SplitReader) (splitId : String) : Prop :=
  ∃ context active, reader = reading context active ∧ active.Unreported splitId

variable {reader reader' : SplitReader} {splitId : String} {asked : Transcript}
  {checkpoint : UInt64}

theorem reading_snapshot (context : ReaderContext) (active : ActiveSplit) (checkpoint : UInt64) :
    ((reading context active).snapshot checkpoint).2 =
      if active.finished then none else some active.split := rfl

theorem Unreported.fetch {outcome : Except Failure Records} (here : reader.Unreported splitId)
    (h : reader.fetch.Yields asked (reader', outcome)) :
    ∃ context active, reader' = reading context active ∧
      ActiveSplit.Fetched splitId outcome active := by
  obtain ⟨context, active, rfl, here⟩ := here
  obtain ⟨active', same, advance⟩ := step_advance (.fetch h)
  exact ⟨context, active', same, advance.fetched here⟩

/-- A split that has finished is reported by the fetch that finishes it. -/
theorem Unreported.reports {records : Records} (here : reader.Unreported splitId)
    (h : reader.fetch.Yields asked (reader', .ok records)) (ended : reader'.isFinished = true) :
    records.finished.toList = [splitId] := by
  obtain ⟨context, active, rfl, left⟩ := here.fetch h
  cases left with
  | goesOn unfinished => exact nomatch unfinished.symm.trans ended
  | ends _ reports => exact reports

theorem Unreported.snapshot (here : reader.Unreported splitId) (checkpoint : UInt64) :
    (reader.snapshot checkpoint).1.Unreported splitId := by
  obtain ⟨context, active, rfl, same, finished, unreported⟩ := here
  exact ⟨context, _, rfl, same, finished, unreported⟩

theorem Unreported.complete {outcome : Except Failure Unit} (here : reader.Unreported splitId)
    (h : (reader.checkpointComplete checkpoint).Yields asked (reader', outcome)) :
    reader'.Unreported splitId := by
  obtain ⟨context, active, rfl, same, finished, unreported⟩ := here
  obtain ⟨active', rfl, advance⟩ := step_advance (.complete h)
  cases advance with
  | complete => exact ⟨context, _, rfl, same, finished, unreported⟩

end SplitReader

namespace SourceReader

/-- A call of a reader of many splits, with what was asked in it and what came of it. An addition
comes with the ids of the splits that it gained, of which there may be some when it fails. -/
inductive Call where
  | add (splits : List Split) (gained : List String) (asked : Transcript)
      (outcome : Except Failure Unit)
  | fetch (asked : Transcript) (outcome : Except Failure Records)
  | snapshot (checkpoint : UInt64) (saved : List Split)
  | complete (checkpoint : UInt64) (asked : Transcript) (outcome : Except Failure Unit)
  | noMoreSplits

namespace Call

/-- The splits that the reader has after the call and had not before. -/
def gained : Call → List String
  | add _ gained _ _ => gained
  | fetch _ _ | snapshot _ _ | complete _ _ _ | noMoreSplits => []

/-- The splits whose end a fetch reports. One that fails reports none. -/
def reported : Call → List String
  | fetch _ (.ok records) => records.finished.toList
  | fetch _ (.error _) | add _ _ _ _ | snapshot _ _ | complete _ _ _ | noMoreSplits => []

end Call

inductive Step : SourceReader → Call → SourceReader → Prop
  | add {r r' : SourceReader} {splits gained asked outcome} :
      (r.addSplits splits).Yields asked (r', outcome) →
      gained = r'.splitIds.filter (fun id => !r.readers.contains id) →
      Step r (.add splits gained asked outcome) r'
  | fetch {r r' : SourceReader} {asked outcome} : r.fetch.Yields asked (r', outcome) →
      Step r (.fetch asked outcome) r'
  | snapshot {r : SourceReader} {checkpoint} :
      Step r (.snapshot checkpoint (r.snapshot checkpoint).2) (r.snapshot checkpoint).1
  | complete {r r' : SourceReader} {checkpoint asked outcome} :
      (r.checkpointComplete checkpoint).Yields asked (r', outcome) →
      Step r (.complete checkpoint asked outcome) r'
  | noMoreSplits {r : SourceReader} : Step r .noMoreSplits r.signalNoMoreSplits

/-- All readers have a property, which may depend on the split that they are held for. -/
def Each (P : String → SplitReader → Prop) (readers : SplitReaders) : Prop :=
  ∀ id reader, readers.get? id = some reader → P id reader

theorem Each.insert {P : String → SplitReader → Prop} {readers : SplitReaders} {splitId : String}
    {reader : SplitReader} (held : Each P readers) (here : P splitId reader) :
    Each P (readers.insert splitId reader) := by
  intro id other found
  rw [OrderedMap.get?_insert] at found
  split at found
  · next same =>
    obtain rfl := eq_of_beq same
    cases found
    exact here
  · exact held id other found

/-- Readers of splits whose ends have not been reported. -/
def Unreported (readers : SplitReaders) : Prop :=
  ∀ id reader, readers.get? id = some reader → reader.Unreported id

theorem Unreported.insert {readers : SplitReaders} {splitId : String} {reader : SplitReader}
    (held : Unreported readers) (here : reader.Unreported splitId) :
    Unreported (readers.insert splitId reader) := Each.insert held here

theorem Unreported.filter {readers : SplitReaders} (held : Unreported readers)
    (p : String → Bool) : Unreported (readers.filter fun id _ => p id) := by
  intro id reader found
  rw [OrderedMap.get?_filter] at found
  split at found
  · exact held id reader found
  · exact nomatch found

/-- How a split that has just finished is put away. -/
inductive Retirement (r : SourceReader) (splitId : String) (reader : SplitReader) :
    Transcript → SourceReader → Prop
  | kept : reader.hasPendingAcknowledgements = true →
      Retirement r splitId reader []
        { r with
          readers := r.readers.erase splitId
          finished := r.finished.insert splitId
          retiring := r.retiring.insert splitId reader }
  | closed {asked reader'} : reader.hasPendingAcknowledgements = false →
      reader.close.Yields asked reader' →
      Retirement r splitId reader asked
        { r with
          readers := r.readers.erase splitId
          finished := r.finished.insert splitId }

/-- A fetch takes the split whose turn it is, and puts it back unless it has finished. -/
inductive Turn (r : SourceReader) : Transcript → Except Failure Records → SourceReader → Prop
  | closed : r.closed = true → Turn r [] (.error .readerClosed) r
  | none : r.closed = false → Turn r [] (.ok .empty) r
  | failed {splitId reader reader' asked failure} : r.closed = false →
      r.readers.get? splitId = some reader →
      reader.fetch.Yields asked (reader', .error failure) →
      Turn r asked (.error failure)
        { r with next := r.next + 1, readers := r.readers.insert splitId reader' }
  | goesOn {splitId reader reader' asked records} : r.closed = false →
      r.readers.get? splitId = some reader →
      reader.fetch.Yields asked (reader', .ok records) → reader'.isFinished = false →
      Turn r asked (.ok records)
        { r with next := r.next + 1, readers := r.readers.insert splitId reader' }
  | ends {splitId reader reader' asked records retired r'} : r.closed = false →
      r.readers.get? splitId = some reader →
      reader.fetch.Yields asked (reader', .ok records) → reader'.isFinished = true →
      Retirement { r with next := r.next + 1 } splitId reader' retired r' →
      Turn r (asked ++ retired) (.ok records) r'

/-- What a call does to the splits that a reader holds. -/
structure Effect (r : SourceReader) (call : Call) (r' : SourceReader) : Prop where
  closed : r'.closed = r.closed
  held : Unreported r'.readers
  contains : ∀ id, r'.readers.contains id = true ↔
    r.readers.contains id = true ∧ id ∉ call.reported ∨ id ∈ call.gained
  finished : ∀ id, r'.finished.contains id = true ↔
    r.finished.contains id = true ∨ id ∈ call.reported
  fresh : ∀ id ∈ call.gained, r.readers.contains id = false ∧ r.finished.contains id = false
  reported : ∀ id ∈ call.reported, r.readers.contains id = true

variable {r r' : SourceReader} {asked : Transcript} {splitId : String}

/-- A call that neither adds a split nor reports the end of one. -/
theorem Effect.of_quiet {call : Call} (closed : r'.closed = r.closed)
    (held : Unreported r'.readers)
    (readers : ∀ id, r'.readers.contains id = r.readers.contains id)
    (finished : r'.finished = r.finished) (gained : call.gained = [])
    (reported : call.reported = []) : Effect r call r' := by
  refine ⟨closed, held, ?_, ?_, ?_, ?_⟩
  · simp [readers, gained, reported]
  · simp [finished, reported]
  · simp [gained]
  · simp [reported]

theorem retire_retirement {reader : SplitReader}
    (h : (r.retire splitId reader).Yields asked r') : Retirement r splitId reader asked r' := by
  rw [retire] at h
  split at h
  · next pending =>
    obtain ⟨rfl, rfl⟩ := yields_done.mp h
    exact .kept pending
  · next settled =>
    obtain ⟨reader', first, rest, rfl, closed, final⟩ := yields_bind.mp h
    obtain ⟨rfl, rfl⟩ := yields_done.mp final
    rw [List.append_nil]
    exact .closed (by simpa using settled) closed

theorem fetch_turn {outcome : Except Failure Records}
    (h : r.fetch.Yields asked (r', outcome)) : Turn r asked outcome r' := by
  rw [fetch] at h
  split at h
  · next closed =>
    obtain ⟨rfl, same⟩ := yields_done.mp h
    cases same
    exact .closed closed
  next opened =>
  have opened : r.closed = false := by simpa using opened
  split at h
  · obtain ⟨rfl, same⟩ := yields_done.mp h
    cases same
    exact .none opened
  next splitId reader turn =>
  have here : r.readers.get? splitId = some reader :=
    (r.readers.get?_eq_some_iff splitId).mpr (List.mem_of_getElem? turn)
  obtain ⟨⟨reader', result⟩, first, rest, rfl, fetched, final⟩ := yields_bind.mp h
  cases result with
  | error failure =>
      obtain ⟨rfl, same⟩ := yields_done.mp final
      cases same
      rw [List.append_nil]
      exact .failed opened here fetched
  | ok records =>
      simp only at final
      split at final
      · next finished =>
        obtain ⟨put, second, rest, rfl, retired, final⟩ := yields_bind.mp final
        obtain ⟨rfl, same⟩ := yields_done.mp final
        cases same
        rw [List.append_nil]
        exact .ends opened here fetched finished (retire_retirement retired)
      · next unfinished =>
        obtain ⟨rfl, same⟩ := yields_done.mp final
        cases same
        rw [List.append_nil]
        exact .goesOn opened here fetched (by simpa using unfinished)

theorem Retirement.spec {reader : SplitReader} (h : Retirement r splitId reader asked r') :
    r'.closed = r.closed ∧ r'.readers = r.readers.erase splitId ∧
      r'.finished = r.finished.insert splitId := by
  cases h with
  | kept | closed => exact ⟨rfl, rfl, rfl⟩

theorem fetch_effect {outcome : Except Failure Records} (held : Unreported r.readers)
    (h : r.fetch.Yields asked (r', outcome)) : Effect r (.fetch asked outcome) r' := by
  -- The split goes only with the report of its end; else its reader is put back.
  cases fetch_turn h with
  | closed | none => exact .of_quiet rfl held (fun _ => rfl) rfl rfl rfl
  | @failed splitId reader reader' _ failure _ here fetched =>
      have known := r.readers.contains_of_get? splitId here
      obtain ⟨context, active, rfl, left⟩ := (held splitId reader here).fetch fetched
      cases left with
      | failed unreported =>
          exact .of_quiet rfl (held.insert ⟨context, active, rfl, unreported⟩)
            (OrderedMap.contains_insert_of_contains known · _) rfl rfl rfl
  | @goesOn splitId reader reader' _ records _ here fetched unfinished =>
      have known := r.readers.contains_of_get? splitId here
      obtain ⟨context, active, rfl, left⟩ := (held splitId reader here).fetch fetched
      cases left with
      | goesOn _ unreported nothing =>
          exact .of_quiet rfl (held.insert ⟨context, active, rfl, unreported⟩)
            (OrderedMap.contains_insert_of_contains known · _) rfl rfl nothing
      | ends finished => exact nomatch unfinished.symm.trans finished
  | @ends splitId reader reader' first records second _ _ here fetched ended retired =>
      obtain ⟨closed, readers, finished⟩ := retired.spec
      have reported : (Call.fetch (first ++ second) (.ok records)).reported = [splitId] :=
        (held splitId reader here).reports fetched ended
      refine ⟨closed, ?_, ?_, ?_, fun _ => nofun, ?_⟩
      · rw [readers]
        exact held.filter (· != splitId)
      · intro id
        rw [readers, reported]
        simp [Call.gained, and_comm]
      · intro id
        rw [finished, reported, OrderedSet.contains_iff, OrderedSet.mem_insert,
          OrderedSet.contains_iff]
        simp [or_comm]
      · rw [reported]
        exact List.forall_mem_singleton.mpr (r.readers.contains_of_get? splitId here)

/-- Splits are opened one after the other, up to one that is known or cannot be opened. -/
inductive Intake :
    SourceReader → List Split → Transcript → SourceReader → Except Failure Unit → Prop
  | ended {r : SourceReader} : Intake r [] [] r (.ok ())
  | known {r : SourceReader} {split rest} :
      (r.readers.contains split.id || r.finished.contains split.id) = true →
      Intake r (split :: rest) [] r (.error (.splitAlreadyAssigned split.id))
  | refused {r : SourceReader} {split rest asked reader failure} :
      (r.readers.contains split.id || r.finished.contains split.id) = false →
      ((SplitReader.new r.context).changeSplits (.addition [split])).Yields asked
        (reader, .error failure) →
      Intake r (split :: rest) asked r (.error failure)
  | next {r r' : SourceReader} {split rest asked opened later outcome} :
      (r.readers.contains split.id || r.finished.contains split.id) = false →
      ((SplitReader.new r.context).changeSplits (.addition [split])).Yields asked
        (.reading r.context opened, .ok ()) →
      Intake { r with readers := r.readers.insert split.id (.reading r.context opened) } rest later
        r' outcome →
      Intake r (split :: rest) (asked ++ later) r' outcome

theorem addEach_intake {splits : List Split} {outcome : Except Failure Unit}
    (h : (r.addEach splits).Yields asked (r', outcome)) : Intake r splits asked r' outcome := by
  induction splits generalizing r asked with
  | nil =>
      obtain ⟨rfl, same⟩ := yields_done.mp h
      cases same
      exact .ended
  | cons split rest ih =>
      rw [addEach] at h
      split at h
      · next known =>
        obtain ⟨rfl, same⟩ := yields_done.mp h
        cases same
        exact .known known
      next unknown =>
      have unknown := Bool.eq_false_iff.mpr unknown
      obtain ⟨⟨reader, result⟩, first, second, rfl, opens, final⟩ := yields_bind.mp h
      cases result with
      | error failure =>
          obtain ⟨rfl, same⟩ := yields_done.mp final
          cases same
          rw [List.append_nil]
          exact .refused unknown opens
      | ok =>
          obtain ⟨opened, rfl, _⟩ := SplitReader.changeSplits_opening opens
          exact .next unknown opens (ih final)

theorem addSplits_intake {splits : List Split} {outcome : Except Failure Unit}
    (h : (r.addSplits splits).Yields asked (r', outcome)) :
    r.closed = true ∧ asked = [] ∧ r' = r ∧ outcome = .error .readerClosed ∨
      r.closed = false ∧ Intake r splits asked r' outcome := by
  rw [addSplits] at h
  split at h
  · next closed =>
    obtain ⟨rfl, same⟩ := yields_done.mp h
    cases same
    exact .inl ⟨closed, rfl, rfl, rfl⟩
  · next opened => exact .inr ⟨by simpa using opened, addEach_intake h⟩

/-- What an addition does. Splits before one that fails are there afterwards. -/
structure Addition (r : SourceReader) (splits : List Split) (outcome : Except Failure Unit)
    (r' : SourceReader) : Prop where
  closed : r'.closed = r.closed
  finished : r'.finished = r.finished
  held : Unreported r'.readers
  kept : ∀ id, r.readers.contains id = true → r'.readers.contains id = true
  fresh : ∀ id, r'.readers.contains id = true → r.readers.contains id = true ∨
    r.finished.contains id = false
  all : outcome.isOk → ∀ split ∈ splits, r.readers.contains split.id = false ∧
    r'.readers.contains split.id = true

theorem Addition.of_same {splits : List Split} {failure : Failure} (held : Unreported r.readers) :
    Addition r splits (.error failure) r :=
  ⟨rfl, rfl, held, fun _ known => known, fun _ => .inl, nofun⟩

theorem Intake.addition {splits : List Split} {outcome : Except Failure Unit}
    (intake : Intake r splits asked r' outcome) (held : Unreported r.readers) :
    Addition r splits outcome r' := by
  induction intake with
  | ended =>
      exact ⟨rfl, rfl, held, fun _ known => known, fun _ => .inl, fun _ => List.forall_mem_nil _⟩
  | known | refused => exact .of_same held
  | @next r _ split _ _ opened _ _ unknown opens _ ih =>
      obtain ⟨new, old⟩ := Bool.or_eq_false_iff.mp unknown
      obtain ⟨_, same, opening⟩ := SplitReader.changeSplits_opening opens
      cases same
      have here : (SplitReader.reading r.context opened).Unreported split.id :=
        ⟨r.context, opened, rfl, opening.splitId, opening.finished, opening.unreported⟩
      obtain ⟨closed, finished, held', kept, fresh, all⟩ := ih (held.insert here)
      refine ⟨closed, finished, held', ?_, ?_, ?_⟩
      · intro id known
        exact kept id (by simp [known])
      · intro id found
        rcases fresh id found with before | unfinished
        · rw [OrderedMap.contains_insert, Bool.or_eq_true, beq_iff_eq] at before
          rcases before with rfl | before
          · exact .inr old
          · exact .inl before
        · exact .inr unfinished
      · intro succeeds
        have others := all succeeds
        refine List.forall_mem_cons.mpr ⟨⟨new, kept _ (by simp)⟩, fun other member => ?_⟩
        obtain ⟨apart, found⟩ := others other member
        rw [OrderedMap.contains_insert, Bool.or_eq_false_iff] at apart
        exact ⟨apart.2, found⟩

theorem addSplits_addition {splits : List Split} {outcome : Except Failure Unit}
    (held : Unreported r.readers) (h : (r.addSplits splits).Yields asked (r', outcome)) :
    Addition r splits outcome r' := by
  rcases addSplits_intake h with ⟨_, rfl, rfl, rfl⟩ | ⟨_, intake⟩
  · exact .of_same held
  · exact intake.addition held

theorem mem_gained {gained : List String}
    (new : gained = r'.splitIds.filter fun id => !r.readers.contains id) {id : String} :
    id ∈ gained ↔ r'.readers.contains id = true ∧ r.readers.contains id = false := by
  simp [new, splitIds, OrderedMap.mem_keys]

theorem Addition.effect {splits : List Split} {gained : List String}
    {outcome : Except Failure Unit} (addition : Addition r splits outcome r')
    (new : gained = r'.splitIds.filter fun id => !r.readers.contains id) :
    Effect r (.add splits gained asked outcome) r' := by
  refine ⟨addition.closed, addition.held, ?_, ?_, ?_, fun _ => nofun⟩
  · intro id
    rw [Call.gained, mem_gained new]
    cases before : r.readers.contains id with
    | true => simp [addition.kept id before, Call.reported]
    | false => simp
  · simp [addition.finished, Call.reported]
  · intro id member
    obtain ⟨found, unknown⟩ := (mem_gained new).mp member
    refine ⟨unknown, (addition.fresh id found).resolve_left ?_⟩
    simp [unknown]

/-- Readers are told of a checkpoint one after the other, up to the first that fails. -/
inductive Round (checkpoint : UInt64) : List (String × SplitReader) → SplitReaders → Transcript →
    SplitReaders → Except Failure Unit → Prop
  | ended {readers} : Round checkpoint [] readers [] readers (.ok ())
  | fails {splitId reader rest readers asked reader' failure} :
      (reader.checkpointComplete checkpoint).Yields asked (reader', .error failure) →
      Round checkpoint ((splitId, reader) :: rest) readers asked (readers.insert splitId reader')
        (.error failure)
  | next {splitId reader rest readers asked reader' later readers' outcome} :
      (reader.checkpointComplete checkpoint).Yields asked (reader', .ok ()) →
      Round checkpoint rest (readers.insert splitId reader') later readers' outcome →
      Round checkpoint ((splitId, reader) :: rest) readers (asked ++ later) readers' outcome

section Rounds

variable {checkpoint : UInt64} {entries : List (String × SplitReader)}
  {readers readers' : SplitReaders} {outcome : Except Failure Unit}

theorem completeEach_round
    (h : (completeEach checkpoint entries readers).Yields asked (readers', outcome)) :
    Round checkpoint entries readers asked readers' outcome := by
  induction entries generalizing readers asked with
  | nil =>
      obtain ⟨rfl, same⟩ := yields_done.mp h
      cases same
      exact .ended
  | cons e rest ih =>
      obtain ⟨⟨reader', result⟩, first, second, rfl, told, final⟩ := yields_bind.mp h
      cases result with
      | error failure =>
          obtain ⟨rfl, same⟩ := yields_done.mp final
          cases same
          rw [List.append_nil]
          exact .fails told
      | ok => exact .next told (ih final)

/-- What telling a reader keeps, a round keeps for all. -/
theorem Round.each {P : String → SplitReader → Prop}
    (round : Round checkpoint entries readers asked readers' outcome)
    (kept : ∀ {id reader reader' asked outcome}, P id reader →
      (reader.checkpointComplete checkpoint).Yields asked (reader', outcome) → P id reader')
    (entering : ∀ e ∈ entries, P e.1 e.2) (held : Each P readers) : Each P readers' := by
  induction round with
  | ended => exact held
  | fails told => exact held.insert (kept (entering _ List.mem_cons_self) told)
  | next told _ ih =>
      obtain ⟨here, others⟩ := List.forall_mem_cons.mp entering
      exact ih others (held.insert (kept here told))

/-- A round changes readers, not the splits that they are for. -/
theorem Round.contains (round : Round checkpoint entries readers asked readers' outcome)
    (known : ∀ e ∈ entries, readers.contains e.1 = true) (id : String) :
    readers'.contains id = readers.contains id := by
  induction round with
  | ended => rfl
  | fails => exact OrderedMap.contains_insert_of_contains (known _ List.mem_cons_self) id _
  | @next _ _ _ _ _ reader' _ _ _ _ _ ih =>
      obtain ⟨here, others⟩ := List.forall_mem_cons.mp known
      have same := (OrderedMap.contains_insert_of_contains here · reader')
      exact (ih fun e member => (same e.1).trans (others e member)).trans (same id)

theorem each_of_entries {P : String → SplitReader → Prop} (held : Each P readers) :
    ∀ e ∈ readers.entries, P e.1 e.2 := fun e member =>
  held e.1 e.2 ((readers.get?_eq_some_iff e.1).mpr member)

theorem contains_of_entries (readers : SplitReaders) :
    ∀ e ∈ readers.entries, readers.contains e.1 = true := fun e member =>
  readers.contains_of_get? e.1 ((readers.get?_eq_some_iff e.1).mpr member)

end Rounds

/-- All readers are told of the checkpoint, those of finished splits last. If none fails, the
readers of finished splits that wait for nothing more are closed. -/
inductive Completion (r : SourceReader) (checkpoint : UInt64) :
    Transcript → Except Failure Unit → SourceReader → Prop
  | heldFails {asked readers failure} :
      Round checkpoint r.readers.entries r.readers asked readers (.error failure) →
      Completion r checkpoint asked (.error failure) { r with readers }
  | retiringFails {asked readers later retiring failure} :
      Round checkpoint r.readers.entries r.readers asked readers (.ok ()) →
      Round checkpoint r.retiring.entries r.retiring later retiring (.error failure) →
      Completion r checkpoint (asked ++ later) (.error failure) { r with readers, retiring }
  | succeeds {asked readers later retiring closing} :
      Round checkpoint r.readers.entries r.readers asked readers (.ok ()) →
      Round checkpoint r.retiring.entries r.retiring later retiring (.ok ()) →
      (closeEach
        (retiring.filter fun _ reader => !reader.hasPendingAcknowledgements).entries).Yields
        closing () →
      Completion r checkpoint (asked ++ (later ++ closing)) (.ok ())
        { r with
          readers
          retiring := retiring.filter fun _ reader => reader.hasPendingAcknowledgements }

theorem checkpointComplete_completion {checkpoint : UInt64} {outcome : Except Failure Unit}
    (h : (r.checkpointComplete checkpoint).Yields asked (r', outcome)) :
    Completion r checkpoint asked outcome r' := by
  obtain ⟨⟨readers, told⟩, first, rest, rfl, completed, next⟩ := yields_bind.mp h
  have round := completeEach_round completed
  cases told with
  | error failure =>
      obtain ⟨rfl, same⟩ := yields_done.mp next
      cases same
      rw [List.append_nil]
      exact .heldFails round
  | ok =>
      obtain ⟨⟨retiring, told⟩, second, rest, rfl, completed, next⟩ := yields_bind.mp next
      have later := completeEach_round completed
      cases told with
      | error failure =>
          obtain ⟨rfl, same⟩ := yields_done.mp next
          cases same
          rw [List.append_nil]
          exact .retiringFails round later
      | ok =>
          obtain ⟨_, third, rest, rfl, closing, final⟩ := yields_bind.mp next
          obtain ⟨rfl, same⟩ := yields_done.mp final
          cases same
          rw [List.append_nil]
          exact .succeeds round later closing

theorem checkpointComplete_effect {checkpoint : UInt64} {outcome : Except Failure Unit}
    (held : Unreported r.readers)
    (h : (r.checkpointComplete checkpoint).Yields asked (r', outcome)) :
    Effect r (.complete checkpoint asked outcome) r' := by
  cases checkpointComplete_completion h with
  | heldFails round | retiringFails round | succeeds round =>
      have held' := round.each (fun here told => here.complete told) (each_of_entries held) held
      exact .of_quiet rfl held' (round.contains (contains_of_entries _)) rfl rfl rfl

theorem snapshot_effect (held : Unreported r.readers) (checkpoint : UInt64) :
    Effect r (.snapshot checkpoint (r.snapshot checkpoint).2) (r.snapshot checkpoint).1 := by
  refine .of_quiet rfl ?_ ?_ rfl rfl rfl
  · intro id reader found
    obtain ⟨reader', here, rfl⟩ : ∃ reader', r.readers.get? id = some reader' ∧
        (reader'.snapshot checkpoint).1 = reader := by simpa [snapshot] using found
    exact (held id reader' here).snapshot checkpoint
  · intro id
    simp [snapshot, OrderedMap.contains]

theorem Step.effect {call : Call} (step : Step r call r') (held : Unreported r.readers) :
    Effect r call r' := by
  cases step with
  | add h new => exact (addSplits_addition held h).effect new
  | fetch h => exact fetch_effect held h
  | snapshot => exact snapshot_effect held _
  | complete h => exact checkpointComplete_effect held h
  | noMoreSplits => exact .of_quiet rfl held (fun _ => rfl) rfl rfl rfl

end SourceReader
end TopicFeed
