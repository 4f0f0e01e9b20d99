import TopicFeed.Proofs.Reader.Custody
import TopicFeed.Proofs.Reader.Deferral
/-! A finished split stays open until its messages are acknowledged. A message that was consumed is
acknowledged, or the acknowledger of an open split still holds it. So nothing is lost with a split
whose acknowledger holds nothing, and a checkpoint that covers all leaves no such split. -/
namespace TopicFeed

open Dialogue

namespace Transcript

variable {t u : Transcript} {consumer : ConsumerId} {id : MessageId}

/-- What a consumer was asked. -/
def on (t : Transcript) (consumer : ConsumerId) : Transcript :=
  t.filter fun e => e.1.consumer? == some consumer

@[simp] theorem on_append : (t ++ u).on consumer = t.on consumer ++ u.on consumer :=
  List.filter_append ..

theorem on_eq_self_of_acknowledges (serves : ∀ e ∈ t, e.1.Serves consumer)
    (acknowledges : t.Acknowledges id) : (t.on consumer).Acknowledges id := by
  obtain ⟨e, taken, covers⟩ := acknowledges
  obtain ⟨member, accepted⟩ := List.mem_filter.mp taken
  refine ⟨e, List.mem_filter.mpr ⟨List.mem_filter.mpr ⟨member, ?_⟩, accepted⟩, covers⟩
  obtain ⟨_, only⟩ := serves e member
  obtain ⟨q, reply⟩ := e
  cases q with
  | acknowledge other | acknowledgeUpTo other =>
      rw [only other rfl]
      exact beq_self_eq_true _
  | _ => exact nomatch covers

end Transcript

namespace SourceReader

variable {context : ReaderContext} {held held' : Multiset ActiveSplit} {act : Act}
  {acts : List Act} {used : UInt64 → Prop}

namespace Act

/-- The checkpoints that an act names. -/
def checkpoints : Act → List UInt64
  | called call => call.checkpoints
  | opened _ | refused _ | retired _ | shut _ => []

def isFetch : Act → Bool
  | called call => call.isFetch
  | opened _ | refused _ | retired _ | shut _ => false

def isShut : Act → Bool
  | shut _ => true
  | opened _ | refused _ | called _ | retired _ => false

end Act

/-- What all splits have that are open, when they are opened with it and calls keep it. -/
theorem Does.each {P : ActiveSplit → Prop} (does : Does context held act held')
    (all : ∀ active ∈ held, P active)
    (opened : ∀ {split asked active}, SplitReader.Opening context split asked active → P active)
    (called : ∀ {other call active active'}, act = .called call →
      active.Advance other call active' → P active → P active') : ∀ active ∈ held', P active := by
  cases does with
  | opened opening =>
      intro active member
      rcases Multiset.mem_cons.mp member with rfl | before
      · exact opened opening
      · exact all active before
  | refused => exact all
  | called advance =>
      intro active member
      rcases Multiset.mem_cons.mp member with rfl | before
      · exact called rfl advance (all _ (Multiset.mem_cons_self _ _))
      · exact all active (Multiset.mem_cons_of_mem before)
  | retired | shut => exact fun active member => all active (Multiset.mem_cons_of_mem member)

theorem Opening.defers {split : Split} {asked : Transcript} {active : ActiveSplit}
    (deferred : context.configuration.autoAcknowledge = false)
    (opening : SplitReader.Opening context split asked active) : active.Defers used := by
  obtain ⟨type, now, made⟩ := opening.made
  rw [deferred] at made
  refine ⟨by rw [made]; rfl, ?_⟩
  rw [made]
  exact fun _ => nofun

theorem Does.defers (does : Does context held act held')
    (deferred : context.configuration.autoAcknowledge = false)
    (named : ∀ c ∈ act.checkpoints, used c) (defers : ∀ active ∈ held, active.Defers used) :
    ∀ active ∈ held', active.Defers used := by
  apply does.each defers (Opening.defers deferred)
  rintro other call active active' rfl advance defers
  exact advance.defers named defers

theorem defers_of_run (deferred : context.configuration.autoAcknowledge = false)
    (run : Runs (Does context) held acts held')
    (named : ∀ act ∈ acts, ∀ c ∈ act.checkpoints, used c)
    (defers : ∀ active ∈ held, active.Defers used) : ∀ active ∈ held', active.Defers used := by
  induction run with
  | nil => exact defers
  | cons first _ ih =>
      obtain ⟨here, later⟩ := List.forall_mem_cons.mp named
      exact ih later (first.defers deferred here defers)

/-- Without a fetch no message is in flight again. -/
theorem inFlight_of_run (deferred : context.configuration.autoAcknowledge = false)
    (run : Runs (Does context) held acts held') (quiet : ∀ act ∈ acts, act.isFetch = false)
    (idle : ∀ active ∈ held, active.acknowledger.automatic = false ∧
      active.acknowledger.inFlight = []) :
    ∀ active ∈ held', active.acknowledger.automatic = false ∧
      active.acknowledger.inFlight = [] := by
  induction run with
  | nil => exact idle
  | cons first _ ih =>
      obtain ⟨here, later⟩ := List.forall_mem_cons.mp quiet
      apply ih later
      apply first.each idle
      · intro split asked active opening
        obtain ⟨type, now, made⟩ := opening.made
        rw [made, deferred]
        exact ⟨rfl, rfl⟩
      · rintro other call active active' rfl advance ⟨automatic, none⟩
        exact ⟨advance.automatic automatic, advance.inFlight automatic here none⟩

/-- Each message that was consumed has been acknowledged to its consumer, or the acknowledger of an
open split has it still. -/
def Retains (acts : List Act) (held : Multiset ActiveSplit) : Prop :=
  ∀ consumer, ∀ m ∈ acts.flatMap (Act.consumedFrom consumer),
    (Transcript.on (acts.flatMap Act.asked) consumer).Acknowledges m.id ∨
      ∃ active ∈ held, active.consumer = consumer ∧ m.id ∈ active.acknowledger.held

/-- Consumption is from the consumer that the call serves. -/
theorem Does.consumer_of_consumedFrom {call : TopicFeed.Call} {other : ReaderContext}
    {active active' : ActiveSplit} {consumer : ConsumerId} {m : Message}
    (advance : active.Advance other call active')
    (member : m ∈ Act.consumedFrom consumer (.called call)) :
    active.consumer = consumer ∧ m ∈ call.consumed := by
  rw [Act.consumedFrom] at member
  split at member
  · next polled =>
    obtain ⟨e, among, here⟩ := List.any_eq_true.mp polled
    obtain ⟨_, asked⟩ := Bool.and_eq_true_iff.mp here
    exact ⟨((advance.serves.1 e among).2 consumer (eq_of_beq asked)).symm, member⟩
  · exact absurd member List.not_mem_nil

theorem retains_of_advance {call : TopicFeed.Call} {other : ReaderContext}
    {active active' : ActiveSplit} {rest : Multiset ActiveSplit} {consumer : ConsumerId}
    {id : MessageId} (advance : active.Advance other call active')
    (deferred : active.acknowledger.automatic = false) (same : active.consumer = consumer)
    (member : id ∈ active.acknowledger.held ∨ id ∈ call.consumed.map Message.id) :
    (call.asked.on consumer).Acknowledges id ∨ ∃ a ∈ active' ::ₘ rest, a.consumer = consumer ∧
      id ∈ a.acknowledger.held := by
  subst same
  obtain ⟨serves, kept⟩ := advance.serves
  rcases advance.settles deferred member with acknowledged | holds
  · exact .inl (Transcript.on_eq_self_of_acknowledges serves acknowledged)
  · exact .inr ⟨active', Multiset.mem_cons_self _ _, kept, holds⟩

theorem Retains.concat (retains : Retains acts held) (does : Does context held act held')
    (defers : ∀ active ∈ held, active.Defers used) (stays : act.isShut = false) :
    Retains (acts ++ [act]) held' := by
  intro consumer m member
  rw [List.flatMap_append, List.flatMap_singleton, List.mem_append] at member
  rw [List.flatMap_append, List.flatMap_singleton, Transcript.on_append,
    Transcript.acknowledges_append, or_assoc]
  rcases member with before | now
  · refine (retains consumer m before).imp_right ?_
    rintro ⟨active, among, same, holds⟩
    cases does with
    | opened => exact .inr ⟨active, Multiset.mem_cons_of_mem among, same, holds⟩
    | refused => exact .inr ⟨active, among, same, holds⟩
    | shut => exact nomatch stays
    | retired settled =>
        rcases Multiset.mem_cons.mp among with rfl | other
        · rw [Acknowledger.held_of_hasPending settled] at holds
          exact nomatch holds
        · exact .inr ⟨active, other, same, holds⟩
    | called advance =>
        rcases Multiset.mem_cons.mp among with rfl | other
        · exact retains_of_advance advance (defers _ among).automatic same (.inl holds)
        · exact .inr ⟨active, Multiset.mem_cons_of_mem other, same, holds⟩
  · right
    cases does with
    | called advance =>
        obtain ⟨same, consumed⟩ := Does.consumer_of_consumedFrom advance now
        exact retains_of_advance advance (defers _ (Multiset.mem_cons_self _ _)).automatic same
          (.inr (List.mem_map_of_mem consumed))
    | _ => exact nomatch now

theorem retains_of_run (deferred : context.configuration.autoAcknowledge = false)
    (run : Runs (Does context) 0 acts held) (stays : ∀ act ∈ acts, act.isShut = false) :
    Retains acts held := by
  suffices both : Retains acts held ∧ ∀ active ∈ held, active.Defers fun _ => True from both.1
  apply run.traced (P := fun acts held =>
    Retains acts held ∧ ∀ active ∈ held, active.Defers fun _ => True)
  · exact ⟨fun _ _ => nofun, fun _ member => absurd member (Multiset.notMem_zero _)⟩
  · rintro before act after held held' rfl ⟨retains, defers⟩ does
    have here := stays act (List.mem_append_right _ List.mem_cons_self)
    exact ⟨retains.concat does defers here, does.defers deferred (fun _ _ => trivial) defers⟩

theorem Act.asked_of_consumedFrom {consumer : ConsumerId} {m : Message}
    (member : m ∈ act.consumedFrom consumer) : ∃ e ∈ act.asked, e.1.consumer? = some consumer := by
  cases act with
  | called call =>
      rw [consumedFrom] at member
      split at member
      · next polled =>
        obtain ⟨e, among, here⟩ := List.any_eq_true.mp polled
        exact ⟨e, among, eq_of_beq (Bool.and_eq_true_iff.mp here).2⟩
      · exact absurd member List.not_mem_nil
  | _ => exact absurd member List.not_mem_nil

/-- An act closes a consumer that it has just made, or that of a split for which no message waits,
unless the reader itself is closed. -/
theorem Does.closes {consumer : ConsumerId} {reply : Except BrokerError Unit}
    (does : Does context held act held') (stays : act.isShut = false)
    (member : ⟨.close consumer, reply⟩ ∈ act.asked) :
    act.consumedFrom consumer = [] ∧ (consumer ∈ Transcript.opened act.asked ∨
      ∃ active rest, held = active ::ₘ rest ∧ active.consumer = consumer ∧
        active.acknowledger.hasPending = false) := by
  have aside {questions : Transcript} (admin : ∀ e ∈ questions, ∃ question, e.1 = .admin question) :
      ⟨.close consumer, reply⟩ ∉ questions := by
    intro among
    obtain ⟨_, same⟩ := admin _ among
    cases same
  cases does with
  | opened opening =>
      obtain ⟨questions, now, admin, asked⟩ := opening.asked
      rw [Act.asked, asked] at member
      have late := (List.mem_append.mp member).resolve_left (aside admin)
      simp at late
  | shut => cases stays
  | called advance => exact absurd (advance.serves.1 _ member).1.symm Bool.false_ne_true
  | refused refusal =>
      refine ⟨rfl, .inl ?_⟩
      cases refusal with
      | early admin => exact absurd member (aside admin)
      | unsubscribed admin =>
          have late := (List.mem_append.mp member).resolve_left (aside admin)
          simp at late
      | @unmoved _ other _ _ _ admin =>
          have late := (List.mem_append.mp member).resolve_left (aside admin)
          have same : consumer = other := by
            simp at late
            exact late.1
          rw [same, Act.asked, Transcript.opened, List.filterMap_append]
          exact List.mem_append_right _ List.mem_cons_self
  | retired settled closes =>
      obtain ⟨flushed, last, rfl, keeps⟩ := SplitReader.close_yields closes
      refine ⟨rfl, .inr ⟨_, _, rfl, ?_, settled⟩⟩
      rcases List.mem_append.mp member with early | late
      · exact absurd (keeps _ early).1 Bool.false_ne_true
      · simp at late
        exact late.1.symm

/-- A question is asked in one of the acts. -/
theorem Act.split_at {e : (q : Question) × q.Reply} {pre post : Transcript}
    (whole : acts.flatMap Act.asked = pre ++ e :: post) :
    ∃ before act after first last, acts = before ++ act :: after ∧
      act.asked = first ++ e :: last ∧ pre = before.flatMap Act.asked ++ first := by
  induction acts generalizing pre with
  | nil => simp at whole
  | cons act rest ih =>
      rw [List.flatMap_cons] at whole
      rcases List.append_eq_append_iff.mp whole with ⟨later, rfl, next⟩ | ⟨later, asked, next⟩
      · obtain ⟨before, act', after, first, last, rfl, asked, rfl⟩ := ih next
        exact ⟨act :: before, act', after, first, last, rfl, asked, by simp⟩
      · cases later with
        | nil =>
            obtain ⟨before, act', after, first, last, rfl, asked', here⟩ := @ih [] next.symm
            refine ⟨act :: before, act', after, first, last, rfl, asked', ?_⟩
            rw [List.append_nil] at asked
            rw [List.flatMap_cons, List.append_assoc, ← here, asked, List.append_nil]
        | cons e' later =>
            obtain ⟨rfl, _⟩ := List.cons.inj next
            exact ⟨[], act, rest, pre, later, rfl, asked, rfl⟩

section Closing

variable {before after : List Act} {consumer : ConsumerId} {reply : Except BrokerError Unit}
  {pre post : Transcript}

/-- Nothing is consumed from a consumer after it was closed. -/
theorem consumes_nothing_after (run : Runs (Does context) 0 (before ++ act :: after) held)
    (distinct : (Transcript.opened ((before ++ act :: after).flatMap Act.asked)).Nodup)
    (closes : act.asked = pre ++ ⟨.close consumer, reply⟩ :: post) :
    after.flatMap (Act.consumedFrom consumer) = [] := by
  have whole : (before ++ act :: after).flatMap Act.asked =
      (before.flatMap Act.asked ++ pre) ++
        ⟨.close consumer, reply⟩ :: (post ++ after.flatMap Act.asked) := by
    rw [List.flatMap_append, List.flatMap_cons, closes]
    simp
  have silent := Transcript.Handles.not_asked_after (Does.run_handles run) distinct whole
  apply List.eq_nil_iff_forall_not_mem.mpr
  intro m late
  obtain ⟨later, among, taken⟩ := List.mem_flatMap.mp late
  obtain ⟨e, asked, same⟩ := Act.asked_of_consumedFrom taken
  refine silent e (List.mem_append_right _ ?_) same
  exact List.mem_flatMap.mpr ⟨later, among, asked⟩

theorem eq_of_consumer {active settled : ActiveSplit} {rest : Multiset ActiveSplit}
    (alone : (consumers (settled ::ₘ rest)).Nodup) (among : active ∈ settled ::ₘ rest)
    (same : active.consumer = settled.consumer) : active = settled := by
  rw [consumers, Multiset.map_cons, Multiset.nodup_cons] at alone
  refine (Multiset.mem_cons.mp among).resolve_right fun other => ?_
  exact alone.1 (Multiset.mem_map.mpr ⟨active, other, same⟩)

/-- Nothing that was consumed from a consumer is left when it is closed for good. -/
theorem settled_of_run (deferred : context.configuration.autoAcknowledge = false)
    (run : Runs (Does context) 0 (before ++ act :: after) held)
    (stays : ∀ act ∈ before, act.isShut = false) (last : act.isShut = false)
    (distinct : (Transcript.opened ((before ++ act :: after).flatMap Act.asked)).Nodup)
    (closes : act.asked = pre ++ ⟨.close consumer, reply⟩ :: post) :
    ∀ m ∈ (before ++ act :: after).flatMap (Act.consumedFrom consumer),
      (Transcript.on (before.flatMap Act.asked ++ pre) consumer).Acknowledges m.id := by
  have late := consumes_nothing_after run distinct closes
  obtain ⟨between, early, run⟩ := Runs.append_iff.mp run
  have made := Transcript.Handles.le_opened (Does.run_handles early)
  cases run with
  | cons does _ =>
  have member : ⟨.close consumer, reply⟩ ∈ act.asked := by
    rw [closes]
    exact List.mem_append_right _ List.mem_cons_self
  obtain ⟨nothing, whose⟩ := does.closes last member
  intro m consumed
  rw [List.flatMap_append, List.flatMap_cons, nothing, late, List.append_nil, List.append_nil]
    at consumed
  rw [Transcript.on_append, Transcript.acknowledges_append]
  refine (retains_of_run deferred early stays consumer m consumed).imp_right ?_
  rintro ⟨active, among, same, holds⟩
  rw [List.flatMap_append, List.flatMap_cons, Transcript.opened, List.filterMap_append,
    List.filterMap_append] at distinct
  obtain ⟨alone, _, apart⟩ := List.nodup_append.mp distinct
  rcases whose with fresh | ⟨settled, rest, rfl, here, none⟩
  · -- A consumer that has just been made was not open before.
    have again := Multiset.mem_of_le made (Multiset.mem_map.mpr ⟨active, among, same⟩)
    exact absurd rfl (apart consumer again consumer (List.mem_append_left _ fresh))
  · rw [eq_of_consumer (Multiset.nodup_of_le made alone) among (same.trans here.symm),
      Acknowledger.held_of_hasPending none] at holds
    exact absurd holds List.not_mem_nil

end Closing

/-- The checkpoints that an event names. -/
def Event.checkpoints : Event → List UInt64
  | .call (.snapshot checkpoint _) | .call (.complete checkpoint _ _) => [checkpoint]
  | _ => []

section Within

variable {event : Event} (within : act.Within event)

include within

theorem Act.Within.checkpoints : act.checkpoints ⊆ event.checkpoints := by
  cases within with
  | snapshot | complete => exact List.Subset.refl _
  | _ => exact List.nil_subset _

theorem Act.Within.isFetch (quiet : event.isFetch = false) : act.isFetch = false := by
  cases within with
  | fetch => exact nomatch quiet
  | _ => rfl

theorem Act.Within.isShut (stays : ∀ asked, event ≠ .close asked) : act.isShut = false := by
  cases within with
  | shut => exact absurd rfl (stays _)
  | _ => rfl

end Within

namespace Conduct

variable {events : List Event} (conduct : Conduct context held events acts held')

include conduct

theorem defers (deferred : context.configuration.autoAcknowledge = false)
    (covers : ∀ event ∈ events, ∀ c ∈ event.checkpoints, used c)
    (before : ∀ active ∈ held, active.Defers used) : ∀ active ∈ held', active.Defers used := by
  refine defers_of_run deferred conduct.runs (fun act member c named => ?_) before
  obtain ⟨event, among, within⟩ := conduct.within act member
  exact covers event among c (within.checkpoints named)

theorem idle (deferred : context.configuration.autoAcknowledge = false)
    (quiet : ∀ event ∈ events, event.isFetch = false)
    (before : ∀ active ∈ held, active.acknowledger.automatic = false ∧
      active.acknowledger.inFlight = []) :
    ∀ active ∈ held', active.acknowledger.automatic = false ∧
      active.acknowledger.inFlight = [] := by
  refine inFlight_of_run deferred conduct.runs (fun act member => ?_) before
  obtain ⟨event, among, within⟩ := conduct.within act member
  exact within.isFetch (quiet event among)

/-- No split is shut while the reader is not closed. -/
theorem stays (opened : ∀ asked, .close asked ∉ events) : ∀ act ∈ acts, act.isShut = false := by
  intro act member
  obtain ⟨event, among, within⟩ := conduct.within act member
  apply within.isShut
  rintro asked rfl
  exact opened asked among

end Conduct

variable {r r' : SourceReader} {checkpoint : UInt64} {asked : Transcript}

/-- After a round in which none fails all readers have been told. -/
theorem Round.told {P Q : SplitReader → Prop} {entries : List (String × SplitReader)}
    {readers readers' : SplitReaders} {outcome : Except Failure Unit}
    (round : Round checkpoint entries readers asked readers' outcome) (succeeds : outcome = .ok ())
    (told : ∀ {reader reader' asked}, P reader →
      (reader.checkpointComplete checkpoint).Yields asked (reader', .ok ()) → Q reader')
    (entering : ∀ e ∈ entries, P e.2)
    (others : Each (fun id reader => id ∈ entries.map Prod.fst ∨ Q reader) readers) :
    Each (fun _ reader => Q reader) readers' := by
  induction round with
  | ended => exact fun id reader found => (others id reader found).resolve_left List.not_mem_nil
  | fails => exact nomatch succeeds
  | @next splitId _ _ _ _ _ _ _ _ completed _ ih =>
      obtain ⟨here, later⟩ := List.forall_mem_cons.mp entering
      refine ih succeeds later fun id reader found => ?_
      rw [OrderedMap.get?_insert] at found
      split at found
      · cases found
        exact .inr (told here completed)
      · next other =>
        have apart : id ≠ splitId := by simpa using other
        refine (others id reader found).imp_left fun among => ?_
        exact (List.mem_cons.mp among).resolve_left apart

/-- What a checkpoint covers is acknowledged when it completes. -/
theorem told_drains {active : ActiveSplit} {other : ReaderContext} {reader : SplitReader}
    (defers : active.Defers (· ≤ checkpoint)) (none : active.acknowledger.inFlight = [])
    (told : ((SplitReader.reading other active).checkpointComplete checkpoint).Yields asked
      (reader, .ok ())) : reader.hasPendingAcknowledgements = false := by
  obtain ⟨active', rfl, advance⟩ := SplitReader.step_advance (.complete told)
  cases advance with
  | complete completed =>
      have move := (Acknowledger.Step.complete active.consumer completed).move defers.automatic
      cases move with
      | complete =>
          have past : active.acknowledger.later checkpoint = ∅ := by
            apply OrderedMap.ext
            apply List.filter_eq_nil_iff.mpr
            intro e member
            have found := (active.acknowledger.pending.get?_eq_some_iff e.1).mpr member
            have early := defers.covered e.1 (OrderedMap.contains_of_get? _ _ found)
            simpa using UInt64.not_lt.mpr early
          rw [past]
          change (!active.acknowledger.inFlight.isEmpty || _) = false
          rw [none]
          rfl

theorem Round.drains {readers readers' : SplitReaders}
    (round : Round checkpoint readers.entries readers asked readers' (.ok ()))
    (all : Each (fun _ reader => reader.IsOpen) readers)
    (ready : ∀ active ∈ activeIn readers, active.Defers (· ≤ checkpoint) ∧
      active.acknowledger.inFlight = []) :
    Each (fun _ reader => reader.hasPendingAcknowledgements = false) readers' := by
  apply round.told (P := fun reader => ∃ other active, reader = .reading other active ∧
    active.Defers (· ≤ checkpoint) ∧ active.acknowledger.inFlight = []) rfl
  · rintro reader reader' asked ⟨other, active, rfl, defers, none⟩ told
    exact told_drains defers none told
  · intro e member
    have found := (readers.get?_eq_some_iff e.1).mpr member
    obtain ⟨other, active, same⟩ := all e.1 e.2 found
    have here : active ∈ activeIn readers :=
      mem_activeIn.mpr ⟨e.1, e.2, found, congrArg SplitReader.active same⟩
    exact ⟨other, active, same, ready active here⟩
  · intro id reader found
    exact .inl (List.mem_map_of_mem ((readers.get?_eq_some_iff id).mp found))

theorem Completion.drains (completion : Completion r checkpoint asked (.ok ()) r')
    (opened : Each (fun _ reader => reader.IsOpen) r.readers)
    (waiting : Each (fun _ reader => reader.IsOpen) r.retiring)
    (ready : ∀ active ∈ r.held, active.Defers (· ≤ checkpoint) ∧
      active.acknowledger.inFlight = []) :
    r'.retiring = ∅ ∧ ∀ active ∈ r'.held, active.acknowledger.hasPending = false := by
  cases completion with
  | @succeeds _ readers _ retiring _ first second _ =>
      have running := first.drains opened fun active among =>
        ready active (Multiset.mem_add.mpr (.inl among))
      have retired := second.drains waiting fun active among =>
        ready active (Multiset.mem_add.mpr (.inr among))
      have none : retiring.filter (fun _ reader => reader.hasPendingAcknowledgements) = ∅ := by
        apply OrderedMap.ext
        apply List.filter_eq_nil_iff.mpr
        intro e member
        simp [retired e.1 e.2 ((retiring.get?_eq_some_iff e.1).mpr member)]
      refine ⟨none, fun active member => ?_⟩
      rw [SourceReader.held, none] at member
      rcases Multiset.mem_add.mp member with held | absent
      · obtain ⟨id, reader, found, here⟩ := mem_activeIn.mp held
        have settled : reader.hasPendingAcknowledgements = false := running id reader found
        rw [SplitReader.hasPendingAcknowledgements, here] at settled
        exact settled
      · exact absurd absent (Multiset.notMem_zero active)

/-- After a snapshot no message is in flight. -/
theorem Occurs.inFlight {saved : List Split}
    (occurs : Occurs r (.call (.snapshot checkpoint saved)) r') :
    ∀ active ∈ r'.held, active.acknowledger.inFlight = [] := by
  cases occurs with
  | call step =>
      cases step with
      | snapshot =>
          intro active member
          rw [snapshot, SourceReader.held, activeIn_snapshot, activeIn_snapshot,
            Multiset.coe_add, ← List.map_append] at member
          obtain ⟨before, _, rfl⟩ := List.mem_map.mp (Multiset.mem_coe.mp member)
          exact Acknowledger.snapshot_inFlight

theorem Occurs.completion {outcome : Except Failure Unit}
    (occurs : Occurs r (.call (.complete checkpoint asked outcome)) r') :
    Completion r checkpoint asked outcome r' := by
  cases occurs with
  | call step =>
      cases step with
      | complete h => exact checkpointComplete_completion h

end SourceReader

open SourceReader (Event)

namespace Lifetime

variable {s : Lifetime}

/-- A consumer is closed in a call only when all that was consumed from it has been acknowledged. -/
theorem settled_before_close (deferred : s.context.configuration.autoAcknowledge = false)
    (distinct : s.Distinct) {before after : List Event} {call : SourceReader.Call}
    {pre post : Transcript} {consumer : ConsumerId} {reply : Except BrokerError Unit}
    (whole : s.events = before ++ .call call :: after)
    (closes : call.asked = pre ++ ⟨.close consumer, reply⟩ :: post) :
    ∀ m ∈ (before ++ [Event.call call]).flatMap (Event.consumedFrom consumer),
      (Transcript.on (before.flatMap Event.asked ++ pre) consumer).Acknowledges m.id := by
  have run := s.runs
  rw [whole] at run
  obtain ⟨r, r', first, occurs⟩ := run.step_at
  have standing := SourceReader.standing_of_run first
  have opened : ∀ asked, .close asked ∉ before ++ [.call call] := by
    cases occurs with
    | call step => exact standing.opened step (by simp [closes])
  obtain ⟨acts, early⟩ := SourceReader.conduct_of_new first
  obtain ⟨more, here⟩ := occurs.conduct standing
  rw [SourceReader.context_of_run first] at here
  have asked := here.asked
  rw [List.flatMap_singleton] at asked
  obtain ⟨between, act, rest, start, last, rfl, asks, rfl⟩ :=
    SourceReader.Act.split_at (asked.trans closes)
  have conduct := early.append here
  have stays := conduct.stays opened
  rw [← List.append_assoc] at conduct stays
  obtain ⟨before_stays, rest_stays⟩ := List.forall_mem_append.mp stays
  have prefix_distinct : (Transcript.opened
      ((acts ++ between ++ act :: rest).flatMap SourceReader.Act.asked)).Nodup := by
    have parts : s.transcript = (before ++ [Event.call call]).flatMap Event.asked ++
        after.flatMap Event.asked := by
      rw [transcript, whole, ← List.flatMap_append]
      simp
    rw [Distinct, parts, Transcript.opened, List.filterMap_append] at distinct
    rw [conduct.asked]
    exact (List.nodup_append.mp distinct).1
  have settled := SourceReader.settled_of_run deferred conduct.runs before_stays
    (List.forall_mem_cons.mp rest_stays).1 prefix_distinct asks
  have front : (acts ++ between).flatMap SourceReader.Act.asked ++ start =
      before.flatMap Event.asked ++ (between.flatMap SourceReader.Act.asked ++ start) := by
    rw [List.flatMap_append, early.asked, List.append_assoc]
  rw [conduct.consumed, front] at settled
  exact settled

/-- A checkpoint that covers all leaves nothing to acknowledge. -/
theorem settled_by_checkpoint (deferred : s.context.configuration.autoAcknowledge = false)
    {before between : List Event} {taken checkpoint : UInt64} {saved : List Split}
    {sent : Transcript}
    (whole : s.events = before ++ .call (.snapshot taken saved) ::
      (between ++ [.call (.complete checkpoint sent (.ok ()))]))
    (quiet : ∀ event ∈ between, event.isFetch = false)
    (covers : ∀ event ∈ s.events, ∀ c ∈ event.checkpoints, c ≤ checkpoint) :
    s.reader.retiring = ∅ ∧
      ∀ active ∈ s.reader.held, active.acknowledger.hasPending = false := by
  have run := s.runs
  rw [whole, ← List.singleton_append, ← List.append_assoc] at run covers
  obtain ⟨coversEarly, coversLate⟩ := List.forall_mem_append.mp covers
  obtain ⟨coversBetween, _⟩ := List.forall_mem_append.mp coversLate
  obtain ⟨r, first, run⟩ := Runs.append_iff.mp run
  obtain ⟨r', second, last⟩ := Runs.concat_iff.mp run
  obtain ⟨r₀, _, taking⟩ := Runs.concat_iff.mp first
  have standing := SourceReader.standing_of_run first
  have standing' := SourceReader.standing_of_run (first.append second)
  obtain ⟨acts, early⟩ := SourceReader.conduct_of_new first
  obtain ⟨more, late⟩ := SourceReader.conduct_of_run second standing
  rw [SourceReader.context_of_run first] at late
  have defers : ∀ active ∈ r.held, active.Defers (· ≤ checkpoint) :=
    early.defers deferred coversEarly fun _ member => absurd member (Multiset.notMem_zero _)
  have defers' := late.defers deferred coversBetween defers
  have idle := late.idle deferred quiet fun active member =>
    ⟨(defers active member).automatic, taking.inFlight active member⟩
  exact last.completion.drains (SourceReader.isOpen_of_unreported standing'.held) standing'.waiting
    fun active member => ⟨defers' active member, (idle active member).2⟩

/-- A call closes a consumer only when all that was consumed from it has been acknowledged. And once
a checkpoint completes that covers all, with nothing read since the snapshot before it, all is
acknowledged and no split waits any longer. -/
theorem retires_settled (deferred : s.context.configuration.autoAcknowledge = false)
    (distinct : s.Distinct) :
    (∀ before call after pre consumer reply post, s.events = before ++ .call call :: after →
      call.asked = pre ++ ⟨.close consumer, reply⟩ :: post →
        ∀ m ∈ (before ++ [Event.call call]).flatMap (Event.consumedFrom consumer),
          (Transcript.on (before.flatMap Event.asked ++ pre) consumer).Acknowledges m.id) ∧
    ∀ before taken saved between checkpoint sent,
      s.events = before ++ .call (.snapshot taken saved) ::
        (between ++ [.call (.complete checkpoint sent (.ok ()))]) →
      (∀ event ∈ between, event.isFetch = false) →
      (∀ event ∈ s.events, ∀ c ∈ event.checkpoints, c ≤ checkpoint) →
        s.reader.retiring = ∅ ∧ (s.reader.closed = false →
          ∀ consumer, ∀ m ∈ s.events.flatMap (Event.consumedFrom consumer),
            (s.transcript.on consumer).Acknowledges m.id) := by
  refine ⟨fun _ _ _ _ _ _ _ => settled_before_close deferred distinct, ?_⟩
  intro before taken saved between checkpoint sent whole quiet covers
  obtain ⟨none, settled⟩ := settled_by_checkpoint deferred whole quiet covers
  refine ⟨none, fun opened consumer m consumed => ?_⟩
  have standing := SourceReader.standing_of_run s.runs
  obtain ⟨acts, conduct⟩ := SourceReader.conduct_of_new s.runs
  have stays := conduct.stays fun asked among =>
    Bool.false_ne_true (opened.symm.trans (standing.closed.mpr ⟨asked, among⟩))
  rw [← conduct.consumed] at consumed
  rw [transcript, ← conduct.asked]
  have retains := SourceReader.retains_of_run deferred conduct.runs stays
  refine (retains consumer m consumed).resolve_right ?_
  rintro ⟨active, among, _, holds⟩
  rw [Acknowledger.held_of_hasPending (settled active among)] at holds
  exact absurd holds List.not_mem_nil

theorem retires_settled_retiring :
    Sample.retiring.context.configuration.autoAcknowledge = false ∧ Sample.retiring.Distinct ∧
      (∃ pre, (Transcript.on ((Sample.retiring.events.take 6).flatMap Event.asked ++ pre)
        ⟨0⟩).Acknowledges (Sample.message 0).id) ∧
      Sample.retiring.reader.retiring = ∅ ∧
      (Sample.retiring.transcript.on ⟨1⟩).Acknowledges (Sample.message 0).id := by
  have deferred : Sample.retiring.context.configuration.autoAcknowledge = false := rfl
  have made : Sample.retiring.transcript.opened = [⟨0⟩, ⟨1⟩] := rfl
  have distinct : Sample.retiring.Distinct := by
    rw [Distinct, made]
    decide
  obtain ⟨closing, completing⟩ := retires_settled deferred distinct
  have last : Sample.retiring.events = Sample.retiring.events.take 6 ++ [.call _] := rfl
  have taken : Sample.retiring.events = Sample.retiring.events.take 4 ++
    .call (.snapshot 1 _) :: ([_] ++ [.call (.complete 1 _ (.ok ()))]) := rfl
  have covers : ∀ event ∈ Sample.retiring.events, ∀ c ∈ event.checkpoints, c ≤ 1 := by
    simp [Sample.retiring, Event.checkpoints]
  obtain ⟨none, acknowledged⟩ := completing _ _ _ _ _ _ taken (by decide) covers
  refine ⟨deferred, distinct, ⟨_, closing _ _ _ [_, _, _] _ _ [] last rfl _ ?_⟩, none, ?_⟩
  · exact List.mem_cons_self
  · exact acknowledged rfl _ _ List.mem_cons_self

end Lifetime
end TopicFeed
