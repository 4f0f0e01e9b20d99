import Mathlib.Data.Multiset.AddSub
import TopicFeed.Proofs.Reader.Lifecycle
import TopicFeed.Proofs.Reader.Loss
/-! What a reader of many splits has open. Whatever happens to it is a number of acts, each of which
concerns one split: this is opened, its reader is called, or it is closed. -/
namespace TopicFeed

open Dialogue

namespace Transcript

/-- Messages of this consumer were waited for. -/
def polls (t : Transcript) (consumer : ConsumerId) : Bool :=
  t.any fun e => e.1.isReceive && e.1.consumer? == some consumer

theorem polls_append (t u : Transcript) (consumer : ConsumerId) :
    (t ++ u).polls consumer = (t.polls consumer || u.polls consumer) := List.any_append

end Transcript

namespace SplitReader

variable {context : ReaderContext} {active : ActiveSplit} {asked : Transcript}
  {reader : SplitReader}

theorem close_yields (h : (reading context active).close.Yields asked reader) :
    ∃ flushed reply, asked = flushed ++ [⟨.close active.consumer, reply⟩] ∧
      ∀ e ∈ flushed, e.1.Keeps active.consumer := by
  obtain ⟨_, flushed, rest, rfl, flushes, closing⟩ := yields_bind.mp h
  obtain ⟨reply, rest, rfl, final⟩ := yields_ask.mp closing
  obtain ⟨rfl, _⟩ := yields_done.mp final
  exact ⟨flushed, reply, rfl, ((active.acknowledger.commit_meets _).yields flushes).1⟩

theorem polls_of_close (h : (reading context active).close.Yields asked reader)
    (consumer : ConsumerId) : asked.polls consumer = false := by
  obtain ⟨flushed, reply, rfl, keeps⟩ := close_yields h
  have silent := Transcript.receipts_of_keeps keeps
  rw [Transcript.polls_append, Bool.or_eq_false_iff]
  refine ⟨?_, rfl⟩
  apply List.any_eq_false.mpr
  intro e member polled
  have waits : e.1.isReceive = true := (Bool.and_eq_true_iff.mp polled).1
  have among : e ∈ Transcript.receipts flushed := List.mem_filter.mpr ⟨member, waits⟩
  rw [silent] at among
  exact nomatch among

end SplitReader

namespace SourceReader

/-- The splits that some readers have. -/
def activeIn (readers : SplitReaders) : Multiset ActiveSplit :=
  ↑(readers.values.filterMap SplitReader.active)

/-- The splits that are open, finished or not. -/
def held (r : SourceReader) : Multiset ActiveSplit := activeIn r.readers + activeIn r.retiring

section Contents

variable {readers : SplitReaders} {splitId : String} {context : ReaderContext}
  {active : ActiveSplit}

theorem activeIn_eq (here : readers.get? splitId = some (.reading context active)) :
    activeIn readers = active ::ₘ activeIn (readers.erase splitId) := by
  have values := (readers.entries_perm_erase splitId here).map Prod.snd
  exact Multiset.coe_eq_coe.mpr (values.filterMap SplitReader.active)

theorem activeIn_insert (readers : SplitReaders) (splitId : String) (context : ReaderContext)
    (active : ActiveSplit) : activeIn (readers.insert splitId (.reading context active)) =
      active ::ₘ activeIn (readers.erase splitId) := by
  have here : (readers.insert splitId (.reading context active)).get? splitId =
      some (.reading context active) := by
    rw [OrderedMap.get?_insert, beq_self_eq_true, if_pos rfl]
  rw [activeIn_eq here, OrderedMap.erase_insert]

theorem activeIn_insert_new (absent : readers.contains splitId = false) (context : ReaderContext)
    (active : ActiveSplit) : activeIn (readers.insert splitId (.reading context active)) =
      active ::ₘ activeIn readers := by
  have missing : readers.get? splitId = none := by simpa [OrderedMap.contains] using absent
  rw [activeIn_insert, readers.erase_of_get?_eq_none splitId missing]

theorem activeIn_filter (readers : SplitReaders) (p : String → SplitReader → Bool) :
    activeIn readers =
      activeIn (readers.filter fun id reader => !p id reader) + activeIn (readers.filter p) := by
  rw [activeIn, activeIn, activeIn, Multiset.coe_add, ← List.filterMap_append]
  apply Multiset.coe_eq_coe.mpr
  apply List.Perm.filterMap
  rw [OrderedMap.values, OrderedMap.values, OrderedMap.values, ← List.map_append]
  exact ((List.perm_append_comm.trans (List.filter_append_perm _ _)).symm).map _

theorem mem_activeIn : active ∈ activeIn readers ↔
    ∃ id reader, readers.get? id = some reader ∧ reader.active = some active := by
  rw [activeIn, Multiset.mem_coe, List.mem_filterMap]
  constructor
  · rintro ⟨reader, member, here⟩
    obtain ⟨id, found⟩ := (readers.mem_values).mp member
    exact ⟨id, reader, found, here⟩
  · rintro ⟨id, reader, found, here⟩
    exact ⟨reader, readers.mem_values.mpr ⟨id, found⟩, here⟩

end Contents

/-- What is done to one split. It may be shut whatever waits to be acknowledged, or retired when
nothing does. -/
inductive Act where
  | opened (asked : Transcript)
  | refused (asked : Transcript)
  | called (call : TopicFeed.Call)
  | retired (asked : Transcript)
  | shut (asked : Transcript)

namespace Act

def asked : Act → Transcript
  | opened asked | refused asked | retired asked | shut asked => asked
  | called call => call.asked

/-- What is consumed from this consumer. -/
def consumedFrom (consumer : ConsumerId) : Act → List Message
  | called call => if call.asked.polls consumer then call.consumed else []
  | opened _ | refused _ | retired _ | shut _ => []

end Act

inductive Does (context : ReaderContext) :
    Multiset ActiveSplit → Act → Multiset ActiveSplit → Prop
  | opened {split asked active held} : SplitReader.Opening context split asked active →
      Does context held (.opened asked) (active ::ₘ held)
  | refused {split asked held} : SplitReader.Refusal context split asked →
      Does context held (.refused asked) held
  | called {other call active active' rest} : active.Advance other call active' →
      Does context (active ::ₘ rest) (.called call) (active' ::ₘ rest)
  | retired {other asked active reader rest} : active.acknowledger.hasPending = false →
      (SplitReader.reading other active).close.Yields asked reader →
      Does context (active ::ₘ rest) (.retired asked) rest
  | shut {other asked active reader rest} :
      (SplitReader.reading other active).close.Yields asked reader →
      Does context (active ::ₘ rest) (.shut asked) rest

/-- The other splits do not matter. -/
theorem Does.frame {context : ReaderContext} {held held' : Multiset ActiveSplit} {act : Act}
    (does : Does context held act held') (others : Multiset ActiveSplit) :
    Does context (held + others) act (held' + others) := by
  cases does with
  | opened opening =>
      rw [Multiset.cons_add]
      exact .opened opening
  | refused refusal => exact .refused refusal
  | called advance =>
      rw [Multiset.cons_add, Multiset.cons_add]
      exact .called advance
  | retired settled closes =>
      rw [Multiset.cons_add]
      exact .retired settled closes
  | shut closes =>
      rw [Multiset.cons_add]
      exact .shut closes

theorem Does.run_frame {context : ReaderContext} {held held' : Multiset ActiveSplit}
    {acts : List Act} (run : Runs (Does context) held acts held')
    (others : Multiset ActiveSplit) :
    Runs (Does context) (held + others) acts (held' + others) := by
  induction run with
  | nil => exact .nil _
  | cons first _ ih => exact .cons (first.frame others) ih

theorem Does.run_beside {context : ReaderContext} {held held' : Multiset ActiveSplit}
    {acts : List Act} (others : Multiset ActiveSplit) (run : Runs (Does context) held acts held') :
    Runs (Does context) (others + held) acts (others + held') := by
  rw [Multiset.add_comm others, Multiset.add_comm others]
  exact Does.run_frame run others

namespace Call

/-- What is consumed from this consumer. -/
def consumedFrom (consumer : ConsumerId) : Call → List Message
  | fetch asked outcome =>
      if asked.polls consumer then (TopicFeed.Call.fetch asked outcome).consumed else []
  | add _ _ _ _ | snapshot _ _ | complete _ _ _ | noMoreSplits => []

end Call

namespace Event

def consumedFrom (consumer : ConsumerId) : Event → List Message
  | .call inner => inner.consumedFrom consumer
  | .close _ => []

def isFetch : Event → Bool
  | .call (.fetch _ _) => true
  | _ => false

end Event

/-- The acts that an event may consist of. -/
inductive Act.Within : Event → Act → Prop
  | opened {splits gained asked outcome first} :
      Within (.call (.add splits gained asked outcome)) (.opened first)
  | refused {splits gained asked outcome last} :
      Within (.call (.add splits gained asked outcome)) (.refused last)
  | fetch {asked outcome first} :
      Within (.call (.fetch asked outcome)) (.called (.fetch first outcome))
  | snapshot {checkpoint saved one} :
      Within (.call (.snapshot checkpoint saved)) (.called (.snapshot checkpoint one))
  | complete {checkpoint asked outcome one result} :
      Within (.call (.complete checkpoint asked outcome))
        (.called (.complete checkpoint one result))
  | retired {call last} : Within (.call call) (.retired last)
  | shut {asked one} : Within (.close asked) (.shut one)

/-- What happens to a reader, as acts on the splits that it has open. -/
structure Conduct (context : ReaderContext) (held : Multiset ActiveSplit) (events : List Event)
    (acts : List Act) (held' : Multiset ActiveSplit) : Prop where
  runs : Runs (Does context) held acts held'
  asked : acts.flatMap Act.asked = events.flatMap Event.asked
  consumed : ∀ consumer, acts.flatMap (Act.consumedFrom consumer) =
    events.flatMap (Event.consumedFrom consumer)
  within : ∀ act ∈ acts, ∃ event ∈ events, act.Within event

namespace Conduct

variable {context : ReaderContext} {held held' held'' : Multiset ActiveSplit}
  {events later : List Event} {acts more : List Act}

theorem nil (context : ReaderContext) (held : Multiset ActiveSplit) :
    Conduct context held [] [] held :=
  ⟨.nil held, rfl, fun _ => rfl, List.forall_mem_nil _⟩

theorem append (first : Conduct context held events acts held')
    (second : Conduct context held' later more held'') :
    Conduct context held (events ++ later) (acts ++ more) held'' := by
  refine ⟨first.runs.append second.runs, ?_, ?_, ?_⟩
  · rw [List.flatMap_append, List.flatMap_append, first.asked, second.asked]
  · intro consumer
    rw [List.flatMap_append, List.flatMap_append, first.consumed, second.consumed]
  · intro act member
    rcases List.mem_append.mp member with early | late
    · obtain ⟨event, among, within⟩ := first.within act early
      exact ⟨event, List.mem_append_left _ among, within⟩
    · obtain ⟨event, among, within⟩ := second.within act late
      exact ⟨event, List.mem_append_right _ among, within⟩

/-- Only fetches consume. -/
theorem of_quiet {event : Event} (runs : Runs (Does context) held acts held')
    (asked : acts.flatMap Act.asked = event.asked) (within : ∀ act ∈ acts, act.Within event)
    (quiet : event.isFetch = false) :
    Conduct context held [event] acts held' := by
  refine ⟨runs, ?_, ?_, ?_⟩
  · rw [asked, List.flatMap_singleton]
  · intro consumer
    rw [List.flatMap_singleton]
    have nothing : event.consumedFrom consumer = [] := by
      cases event with
      | close => rfl
      | call inner =>
          cases inner with
          | fetch => exact nomatch quiet
          | _ => rfl
    rw [nothing, List.flatMap_eq_nil_iff]
    intro act member
    cases within act member with
    | fetch => exact nomatch quiet
    | snapshot | complete => simp [Act.consumedFrom, TopicFeed.Call.consumed]
    | _ => rfl
  · intro act member
    exact ⟨event, List.mem_singleton_self event, within act member⟩

end Conduct

section Events

variable {r r' : SourceReader} {asked : Transcript}

theorem isOpen_of_unreported {readers : SplitReaders} (held : Unreported readers) :
    Each (fun _ reader => reader.IsOpen) readers := by
  intro id reader found
  obtain ⟨context, active, same, _⟩ := held id reader found
  exact ⟨context, active, same⟩

/-- A fetch of one of the readers is a call of its split. -/
theorem does_of_fetch {splitId : String} {reader reader' : SplitReader}
    {outcome : Except Failure Records} (held : Unreported r.readers)
    (here : r.readers.get? splitId = some reader)
    (fetched : reader.fetch.Yields asked (reader', outcome)) :
    ∃ other active', reader' = .reading other active' ∧
      Does r.context r.held (.called (.fetch asked outcome))
        (active' ::ₘ (activeIn (r.readers.erase splitId) + activeIn r.retiring)) := by
  obtain ⟨other, active, rfl, _⟩ := held splitId reader here
  obtain ⟨active', rfl, advance⟩ := SplitReader.step_advance (.fetch fetched)
  refine ⟨other, active', rfl, ?_⟩
  rw [SourceReader.held, activeIn_eq here, Multiset.cons_add]
  exact .called advance

theorem Turn.conduct {outcome : Except Failure Records} (turn : Turn r asked outcome r')
    (held : Unreported r.readers)
    (apart : ∀ id, r.readers.contains id = true → r.retiring.contains id = false) :
    ∃ acts, Conduct r.context r.held [.call (.fetch asked outcome)] acts r'.held := by
  have single {asked : Transcript} {outcome : Except Failure Records}
      {held held' : Multiset ActiveSplit}
      (does : Does r.context held (.called (.fetch asked outcome)) held') :
      Conduct r.context held [.call (.fetch asked outcome)] [.called (.fetch asked outcome)]
        held' := by
    refine ⟨.cons does (.nil _), rfl, fun _ => rfl, ?_⟩
    exact List.forall_mem_singleton.mpr ⟨_, List.mem_cons_self, .fetch⟩
  cases turn with
  | closed | none => exact ⟨[], .nil _, rfl, fun _ => rfl, List.forall_mem_nil _⟩
  | failed _ here fetched | goesOn _ here fetched =>
      obtain ⟨other, active', rfl, fetches⟩ := does_of_fetch held here fetched
      refine ⟨_, single ?_⟩
      rw [SourceReader.held, SourceReader.held, activeIn_insert, Multiset.cons_add]
      exact fetches
  | @ends splitId reader reader' first records second _ opened here fetched ended retirement =>
      obtain ⟨other, active', rfl, fetches⟩ := does_of_fetch held here fetched
      cases retirement with
      | kept =>
          have absent := apart splitId (r.readers.contains_of_get? splitId here)
          refine ⟨[.called (.fetch first (.ok records))], ?_⟩
          rw [SourceReader.held, SourceReader.held, activeIn_insert_new absent,
            Multiset.add_cons, List.append_nil]
          exact single fetches
      | closed settled closes =>
          refine ⟨[.called (.fetch first (.ok records)), .retired second], ?_, ?_, ?_, ?_⟩
          · exact .cons fetches (.cons (.retired settled closes) (.nil _))
          · simp [Act.asked, TopicFeed.Call.asked, Event.asked, Call.asked]
          · intro consumer
            have polled : Transcript.polls (first ++ second) consumer =
                Transcript.polls first consumer := by
              rw [Transcript.polls_append, SplitReader.polls_of_close closes, Bool.or_false]
            simp only [List.flatMap_cons, List.flatMap_nil, List.append_nil, Act.consumedFrom,
              Event.consumedFrom, Call.consumedFrom, polled]
            rfl
          · intro act member
            refine ⟨_, List.mem_singleton_self _, ?_⟩
            rcases List.mem_pair.mp member with rfl | rfl
            · exact .fetch
            · exact .retired

/-- What an addition does, one split after the other. -/
theorem Intake.acts {splits : List Split} {outcome : Except Failure Unit}
    (intake : Intake r splits asked r' outcome) :
    ∃ acts, Runs (Does r.context) r.held acts r'.held ∧ acts.flatMap Act.asked = asked ∧
      ∀ act ∈ acts, ∀ splits gained asked outcome,
        act.Within (.call (.add splits gained asked outcome)) := by
  induction intake with
  | ended | known => exact ⟨[], .nil _, rfl, List.forall_mem_nil _⟩
  | @refused r _ _ asked _ _ _ opens =>
      refine ⟨[.refused asked], .cons (.refused (SplitReader.changeSplits_refusal opens)) (.nil _),
        List.flatMap_singleton .., List.forall_mem_singleton.mpr ?_⟩
      exact fun _ _ _ _ => .refused
  | @next r r' split rest asked opened later outcome unknown opens _ ih =>
      obtain ⟨acts, runs, rfl, within⟩ := ih
      obtain ⟨_, same, opening⟩ := SplitReader.changeSplits_opening opens
      cases same
      obtain ⟨absent, _⟩ := Bool.or_eq_false_iff.mp unknown
      rw [SourceReader.held, activeIn_insert_new absent, Multiset.cons_add] at runs
      refine ⟨.opened asked :: acts, .cons (.opened opening) runs, List.flatMap_cons ..,
        List.forall_mem_cons.mpr ⟨fun _ _ _ _ => .opened, within⟩⟩

/-- The readers that are told of a checkpoint go through it one by one. -/
theorem Round.acts {checkpoint : UInt64} {entries : List (String × SplitReader)}
    {readers readers' : SplitReaders} {outcome : Except Failure Unit} (context : ReaderContext)
    (round : Round checkpoint entries readers asked readers' outcome)
    (there : ∀ e ∈ entries, readers.get? e.1 = some e.2 ∧ e.2.IsOpen)
    (apart : entries.Pairwise fun a b => a.1 ≠ b.1) :
    ∃ acts, Runs (Does context) (activeIn readers) acts (activeIn readers') ∧
      acts.flatMap Act.asked = asked ∧ ∀ act ∈ acts, ∀ asked outcome,
        act.Within (.call (.complete checkpoint asked outcome)) := by
  have tells {readers : SplitReaders} {splitId : String} {reader reader' : SplitReader}
      {asked : Transcript} {outcome : Except Failure Unit}
      (there : readers.get? splitId = some reader ∧ reader.IsOpen)
      (told : (reader.checkpointComplete checkpoint).Yields asked (reader', outcome)) :
      Does context (activeIn readers) (.called (.complete checkpoint asked outcome))
        (activeIn (readers.insert splitId reader')) := by
    obtain ⟨here, other, active, rfl⟩ := there
    obtain ⟨active', rfl, advance⟩ := SplitReader.step_advance (.complete told)
    rw [activeIn_eq here, activeIn_insert]
    exact .called advance
  induction round with
  | ended => exact ⟨[], .nil _, rfl, List.forall_mem_nil _⟩
  | fails told =>
      have does := tells (there _ List.mem_cons_self) told
      refine ⟨_, .cons does (.nil _), List.flatMap_singleton .., List.forall_mem_singleton.mpr ?_⟩
      exact fun _ _ => .complete
  | @next splitId reader rest readers asked reader' later readers' outcome told _ ih =>
      obtain ⟨here, others⟩ := List.forall_mem_cons.mp there
      obtain ⟨first, rest_apart⟩ := List.pairwise_cons.mp apart
      obtain ⟨acts, runs, rfl, within⟩ := ih (fun e member => by
        rw [OrderedMap.get?_insert, if_neg (by simpa using (first e member).symm)]
        exact others e member) rest_apart
      refine ⟨_, .cons (tells here told) runs, List.flatMap_cons .., ?_⟩
      exact List.forall_mem_cons.mpr ⟨fun _ _ => .complete, within⟩

/-- Readers are closed one after the other, for one reason all of them. -/
theorem closeEach_acts (context : ReaderContext) (act : Transcript → Act)
    {entries : List (String × SplitReader)} (asks : ∀ t, (act t).asked = t)
    (does : ∀ e ∈ entries, ∃ other active, e.2 = .reading other active ∧
      ∀ {asked reader rest}, (SplitReader.reading other active).close.Yields asked reader →
        Does context (active ::ₘ rest) (act asked) rest)
    (h : (closeEach entries).Yields asked ()) :
    ∃ acts, Runs (Does context) ↑((entries.map Prod.snd).filterMap SplitReader.active) acts 0 ∧
      acts.flatMap Act.asked = asked ∧ ∀ one ∈ acts, ∃ t, one = act t := by
  induction entries generalizing asked with
  | nil =>
      obtain ⟨rfl, _⟩ := yields_done.mp h
      exact ⟨[], .nil _, rfl, List.forall_mem_nil _⟩
  | cons e rest ih =>
      obtain ⟨reader', first, second, rfl, closes, next⟩ := yields_bind.mp h
      obtain ⟨⟨other, active, same, here⟩, others⟩ := List.forall_mem_cons.mp does
      obtain ⟨acts, runs, rfl, kind⟩ := ih others next
      rw [same] at closes
      have front : (↑(((e :: rest).map Prod.snd).filterMap SplitReader.active) :
          Multiset ActiveSplit) =
          active ::ₘ ↑((rest.map Prod.snd).filterMap SplitReader.active) := by
        rw [List.map_cons, same]
        rfl
      refine ⟨act first :: acts, ?_, ?_, List.forall_mem_cons.mpr ⟨⟨first, rfl⟩, kind⟩⟩
      · rw [front]
        exact .cons (here closes) runs
      · rw [List.flatMap_cons, asks]

/-- The readers that are closed when a checkpoint completes are those that wait for nothing. -/
theorem settled_of_filter {readers : SplitReaders}
    (opened : Each (fun _ reader => reader.IsOpen) readers) :
    ∀ e ∈ (readers.filter fun _ reader => !reader.hasPendingAcknowledgements).entries,
      ∃ other active, e.2 = .reading other active ∧ active.acknowledger.hasPending = false := by
  intro e member
  obtain ⟨stays, settled⟩ := List.mem_filter.mp member
  obtain ⟨other, active, same⟩ := opened e.1 e.2 ((readers.get?_eq_some_iff e.1).mpr stays)
  rw [same, Bool.not_eq_true'] at settled
  exact ⟨other, active, same, settled⟩

theorem Completion.conduct {checkpoint : UInt64} {outcome : Except Failure Unit}
    (completion : Completion r checkpoint asked outcome r') (held : Unreported r.readers)
    (waiting : Each (fun _ reader => reader.IsOpen) r.retiring) :
    ∃ acts, Conduct r.context r.held [.call (.complete checkpoint asked outcome)] acts r'.held := by
  have round {readers readers' : SplitReaders} {asked : Transcript} {outcome : Except Failure Unit}
      (told : Round checkpoint readers.entries readers asked readers' outcome)
      (all : Each (fun _ reader => reader.IsOpen) readers) :=
    told.acts r.context
      (fun e member => have here := (readers.get?_eq_some_iff e.1).mpr member; ⟨here, all _ _ here⟩)
      (readers.ascending.imp fun less same => by simp [same] at less)
  cases completion with
  | heldFails first =>
      obtain ⟨acts, runs, rfl, within⟩ := round first (isOpen_of_unreported held)
      exact ⟨acts, .of_quiet (Does.run_frame runs _) rfl (fun _ member => within _ member _ _) rfl⟩
  | @retiringFails _ readers _ _ _ first second =>
      obtain ⟨acts, runs, rfl, within⟩ := round first (isOpen_of_unreported held)
      obtain ⟨more, runs', rfl, within'⟩ := round second waiting
      refine ⟨acts ++ more, .of_quiet ?_ List.flatMap_append ?_ rfl⟩
      · exact (Does.run_frame runs _).append (Does.run_beside (activeIn readers) runs')
      · intro act member
        rcases List.mem_append.mp member with early | late
        · exact within act early _ _
        · exact within' act late _ _
  | @succeeds _ readers _ retiring _ first second closes =>
      obtain ⟨acts, runs, rfl, within⟩ := round first (isOpen_of_unreported held)
      obtain ⟨more, runs', rfl, within'⟩ := round second waiting
      have opened : Each (fun _ reader => reader.IsOpen) retiring :=
        second.each (fun here told => here.complete told) (each_of_entries waiting) waiting
      obtain ⟨last, runs'', rfl, kind⟩ := closeEach_acts r.context .retired (fun _ => rfl)
        (fun e member => by
          obtain ⟨other, active, same, settled⟩ := settled_of_filter opened e member
          exact ⟨other, active, same, .retired settled⟩) closes
      refine ⟨acts ++ (more ++ last), .of_quiet ?_ ?_ ?_ rfl⟩
      · refine (Does.run_frame runs _).append ((Does.run_beside (activeIn readers) runs').append ?_)
        have settle := Does.run_frame runs''
          (activeIn (retiring.filter fun _ reader => reader.hasPendingAcknowledgements))
        rw [Multiset.zero_add] at settle
        rw [activeIn_filter retiring]
        exact Does.run_beside (activeIn readers) settle
      · rw [List.flatMap_append, List.flatMap_append]
        rfl
      · intro act member
        rcases List.mem_append.mp member with early | late
        · exact within act early _ _
        rcases List.mem_append.mp late with late | closing
        · exact within' act late _ _
        · obtain ⟨_, rfl⟩ := kind act closing
          exact .retired

/-- A snapshot is taken of one split after the other. -/
theorem snapshot_acts (context : ReaderContext) (checkpoint : UInt64) (actives : List ActiveSplit) :
    ∃ acts, Runs (Does context) ↑actives acts ↑(actives.map fun active =>
        { active with acknowledger := active.acknowledger.snapshot checkpoint }) ∧
      acts.flatMap Act.asked = [] ∧
      ∀ act ∈ acts, ∀ saved, act.Within (.call (.snapshot checkpoint saved)) := by
  induction actives with
  | nil => exact ⟨[], .nil _, rfl, List.forall_mem_nil _⟩
  | cons active rest ih =>
      obtain ⟨acts, runs, silent, within⟩ := ih
      have takes : active.Advance context (.snapshot checkpoint _) _ := .snapshot
      have first : Does context (active ::ₘ ↑rest) _ _ := .called takes
      have others := Does.run_beside {{ active with
        acknowledger := active.acknowledger.snapshot checkpoint }} runs
      refine ⟨_ :: acts, .cons first others, ?_, ?_⟩
      · rw [List.flatMap_cons, silent]
        rfl
      · exact List.forall_mem_cons.mpr ⟨fun _ => .snapshot, within⟩

theorem activeIn_snapshot (readers : SplitReaders) (checkpoint : UInt64) :
    activeIn (readers.mapValues fun reader => (reader.snapshot checkpoint).1) =
      ↑((readers.values.filterMap SplitReader.active).map fun active =>
        { active with acknowledger := active.acknowledger.snapshot checkpoint }) := by
  have told (reader : SplitReader) : (reader.snapshot checkpoint).1.active =
      reader.active.map fun active =>
        { active with acknowledger := active.acknowledger.snapshot checkpoint } := by
    rw [SplitReader.snapshot]
    cases here : reader.active with
    | none => exact here
    | some active => rfl
  rw [activeIn, OrderedMap.values, OrderedMap.values, OrderedMap.mapValues, List.map_map,
    List.map_filterMap, List.filterMap_map, List.filterMap_map]
  congr 2
  funext e
  exact told e.2

theorem Occurs.conduct {events : List Event} {event : Event} (occurs : Occurs r event r')
    (standing : Standing events r) : ∃ acts, Conduct r.context r.held [event] acts r'.held := by
  cases occurs with
  | close h =>
      cases close_closing h with
      | again => exact ⟨[], .of_quiet (.nil _) rfl (List.forall_mem_nil _) rfl⟩
      | first _ closes =>
          have opened : ∀ e ∈ r.readers.entries ++ r.retiring.entries, e.2.IsOpen :=
            List.forall_mem_append.mpr ⟨each_of_entries (isOpen_of_unreported standing.held),
              each_of_entries standing.waiting⟩
          obtain ⟨acts, runs, asked, kind⟩ := closeEach_acts r.context .shut (fun _ => rfl)
            (fun e member => by
              obtain ⟨other, active, same⟩ := opened e member
              exact ⟨other, active, same, .shut⟩) closes
          rw [List.map_append, List.filterMap_append, ← Multiset.coe_add] at runs
          refine ⟨acts, .of_quiet runs asked (fun act member => ?_) rfl⟩
          obtain ⟨_, rfl⟩ := kind act member
          exact .shut
  | call step =>
      cases step with
      | noMoreSplits => exact ⟨[], .of_quiet (.nil _) rfl (List.forall_mem_nil _) rfl⟩
      | add h =>
          rcases addSplits_intake h with ⟨_, rfl, rfl, rfl⟩ | ⟨_, intake⟩
          · exact ⟨[], .of_quiet (.nil _) rfl (List.forall_mem_nil _) rfl⟩
          · obtain ⟨acts, runs, asked, within⟩ := intake.acts
            exact ⟨acts, .of_quiet runs asked (fun act member => within act member _ _ _ _) rfl⟩
      | fetch h =>
          refine (fetch_turn h).conduct standing.held fun id held => ?_
          by_contra retires
          exact nomatch (standing.running id held).symm.trans
            (standing.retired id (by simpa using retires))
      | complete h => exact (checkpointComplete_completion h).conduct standing.held standing.waiting
      | @snapshot checkpoint =>
          obtain ⟨acts, runs, silent, within⟩ := snapshot_acts r.context checkpoint
            (r.readers.values.filterMap SplitReader.active ++
              r.retiring.values.filterMap SplitReader.active)
          rw [List.map_append, ← Multiset.coe_add, ← Multiset.coe_add, ← activeIn_snapshot,
            ← activeIn_snapshot] at runs
          exact ⟨acts, .of_quiet runs silent (fun act member => within act member _) rfl⟩

/-- Events one after the other are acts one after the other. -/
theorem conduct_of_run {before events : List Event} (run : Runs Occurs r events r')
    (standing : Standing before r) : ∃ acts, Conduct r.context r.held events acts r'.held := by
  induction run generalizing before with
  | nil => exact ⟨[], .nil ..⟩
  | cons first _ ih =>
      obtain ⟨acts, here⟩ := first.conduct standing
      obtain ⟨more, later⟩ := ih (standing.concat first)
      rw [first.context] at later
      exact ⟨acts ++ more, here.append later⟩

theorem conduct_of_new {id : UInt32} {context : ReaderContext} {events : List Event}
    (run : Runs Occurs (.new id context) events r) :
    ∃ acts, Conduct context 0 events acts r.held :=
  conduct_of_run run (standing_of_run (.nil _))

end Events
end SourceReader
end TopicFeed
