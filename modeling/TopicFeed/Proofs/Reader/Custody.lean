import Mathlib.Data.Multiset.Count
import Mathlib.Data.Multiset.MapFold
import TopicFeed.Proofs.Reader.Holdings
/-! Who has a consumer in hand. A transcript is read as a run over the consumers that are open: one
is opened by its subscription and given back by its close, and only those that are open are asked
for anything. -/
namespace TopicFeed

open Dialogue

/-- The question makes a consumer or closes one. -/
def Question.manages : Question → Bool
  | .subscribe _ | .close _ => true
  | _ => false

/-- The question concerns one consumer only, and leaves it open. -/
def Question.Serves (consumer : ConsumerId) (q : Question) : Prop :=
  q.manages = false ∧ ∀ other ∈ q.consumer?, other = consumer

theorem Question.Keeps.serves {consumer : ConsumerId} {q : Question} (keeps : q.Keeps consumer) :
    q.Serves consumer := by
  obtain ⟨bookkeeping, only⟩ := keeps
  refine ⟨?_, only⟩
  cases q <;> simp_all [isBookkeeping, manages]

namespace Transcript

def opens? : (q : Question) × q.Reply → Option ConsumerId
  | ⟨.subscribe _, .ok consumer⟩ => some consumer
  | _ => none

def closes? : (q : Question) × q.Reply → Option ConsumerId
  | ⟨.close consumer, _⟩ => some consumer
  | _ => none

/-- The consumers that were made. -/
def opened (t : Transcript) : List ConsumerId := t.filterMap opens?

/-- The consumers that were closed, whatever came of it. -/
def closed (t : Transcript) : List ConsumerId := t.filterMap closes?

/-- From the consumers that are open, to those that are open after a question. -/
inductive Handles : Multiset ConsumerId → (q : Question) × q.Reply → Multiset ConsumerId → Prop
  | opens {consumer options held} :
      Handles held ⟨.subscribe options, .ok consumer⟩ (consumer ::ₘ held)
  | closes {consumer reply rest} : Handles (consumer ::ₘ rest) ⟨.close consumer, reply⟩ rest
  | uses {e held} : opens? e = none → closes? e = none →
      (∀ consumer ∈ e.1.consumer?, consumer ∈ held) → Handles held e held

variable {held held' : Multiset ConsumerId} {consumer : ConsumerId} {t : Transcript}

/-- A question to no consumer leaves those that are open as they are. -/
theorem Handles.aside {e : (q : Question) × q.Reply} (opens : opens? e = none)
    (closes : closes? e = none) (none : e.1.consumer? = none) : Handles held e held := by
  refine .uses opens closes ?_
  rw [none]
  exact fun _ member => absurd member (Option.not_mem_none _)

theorem Handles.of_manages {e : (q : Question) × q.Reply} (leaves : e.1.manages = false)
    (open_ : ∀ consumer ∈ e.1.consumer?, consumer ∈ held) : Handles held e held := by
  obtain ⟨q, reply⟩ := e
  refine .uses ?_ ?_ open_
  · cases q with
    | subscribe => exact nomatch leaves
    | _ => rfl
  · cases q with
    | close => exact nomatch leaves
    | _ => rfl

theorem Handles.run_of_manages
    (each : ∀ e ∈ t, e.1.manages = false ∧ ∀ consumer ∈ e.1.consumer?, consumer ∈ held) :
    Runs Handles held t held := by
  induction t with
  | nil => exact .nil held
  | cons e rest ih =>
      obtain ⟨⟨leaves, open_⟩, others⟩ := List.forall_mem_cons.mp each
      exact .cons (.of_manages leaves open_) (ih others)

theorem Handles.run_of_serves (among : consumer ∈ held) (each : ∀ e ∈ t, e.1.Serves consumer) :
    Runs Handles held t held := by
  apply Handles.run_of_manages
  intro e member
  obtain ⟨leaves, only⟩ := each e member
  refine ⟨leaves, fun other asked => ?_⟩
  rw [only other asked]
  exact among

theorem Handles.run_of_admin (admin : ∀ e ∈ t, ∃ question, e.1 = .admin question) :
    Runs Handles held t held := by
  apply Handles.run_of_manages
  intro e member
  obtain ⟨question, asked⟩ := admin e member
  rw [asked]
  exact ⟨rfl, fun _ => nofun⟩

/-- What was open or was made is open still or was closed. -/
theorem Handles.balance (run : Runs Handles held t held') :
    held + ↑t.opened = held' + ↑t.closed := by
  induction run with
  | nil => rfl
  | @cons held between held' e rest first _ ih =>
      rw [opened, closed] at ih ⊢
      cases first with
      | @opens consumer options =>
          have made : opens? ⟨.subscribe options, .ok consumer⟩ = some consumer := rfl
          rw [List.filterMap_cons_some made, ← Multiset.cons_coe, Multiset.add_cons,
            ← Multiset.cons_add, ih]
          rfl
      | @closes consumer reply =>
          have given : closes? ⟨.close consumer, reply⟩ = some consumer := rfl
          rw [List.filterMap_cons_some given, ← Multiset.cons_coe, Multiset.add_cons, ← ih,
            Multiset.cons_add]
          rfl
      | uses none none' =>
          rw [List.filterMap_cons_none none, List.filterMap_cons_none none', ih]

/-- A consumer that is neither open nor made later is not asked for anything. -/
theorem Handles.not_asked (run : Runs Handles held t held') (away : consumer ∉ held)
    (unmade : consumer ∉ t.opened) : ∀ e ∈ t, e.1.consumer? ≠ some consumer := by
  induction run with
  | nil => exact List.forall_mem_nil _
  | @cons held between held' e rest first _ ih =>
      rw [opened] at ih unmade
      cases first with
      | @opens other options =>
          have made : opens? ⟨.subscribe options, .ok other⟩ = some other := rfl
          rw [List.filterMap_cons_some made, List.mem_cons, not_or] at unmade
          obtain ⟨apart, later⟩ := unmade
          have away : consumer ∉ other ::ₘ held := by simp [apart, away]
          exact List.forall_mem_cons.mpr ⟨nofun, ih away later⟩
      | @closes other reply =>
          obtain ⟨apart, away⟩ : consumer ≠ other ∧ consumer ∉ between := by
            simpa [not_or] using away
          refine List.forall_mem_cons.mpr ⟨?_, ih away unmade⟩
          intro same
          exact apart (Option.some.inj same).symm
      | uses none none' open_ =>
          rw [List.filterMap_cons_none none] at unmade
          exact List.forall_mem_cons.mpr ⟨fun same => away (open_ consumer same), ih away unmade⟩

/-- Consumers that are open have been made. -/
theorem Handles.le_opened (run : Runs Handles 0 t held) : held ≤ ↑t.opened := by
  have balance := Handles.balance run
  rw [Multiset.zero_add] at balance
  rw [balance]
  exact Multiset.le_add_right _ _

/-- If no two consumers are the same, one that was closed is not asked for anything any more. -/
theorem Handles.not_asked_after (run : Runs Handles 0 t held) (distinct : t.opened.Nodup)
    {before after : Transcript} {reply : Except BrokerError Unit}
    (whole : t = before ++ ⟨.close consumer, reply⟩ :: after) :
    ∀ e ∈ after, e.1.consumer? ≠ some consumer := by
  rw [whole] at run
  obtain ⟨held, early, run⟩ := Runs.append_iff.mp run
  have made := Multiset.le_iff_count.mp (Handles.le_opened early) consumer
  have parts : t.opened = before.opened ++ after.opened := by
    rw [whole]
    exact List.filterMap_append
  have once := List.nodup_iff_count_le_one.mp distinct consumer
  rw [parts, List.count_append] at once
  cases run with
  | cons closes late =>
      cases closes with
      | uses _ open_ => exact nomatch open_
      | @closes _ _ rest =>
          rw [Multiset.coe_count, Multiset.count_cons_self] at made
          refine Handles.not_asked late ?_ ?_
          · exact Multiset.count_eq_zero.mp (by omega)
          · exact List.count_eq_zero.mp (by omega)

end Transcript

section Serving

variable {configuration : Configuration} {deadline : Instant} {budget : Nat}
  {active active' : ActiveSplit} {emitted : List Message} {t : Transcript}
  {outcome : Except Failure Records}

theorem ActiveSplit.polled_serves (active : ActiveSplit) (now : Instant) (timeout : Duration)
    (receipt : Receipt) :
    ∀ e ∈ active.polled now timeout receipt, e.1.Serves active.consumer := by
  intro e member
  simp only [polled, List.mem_cons, List.not_mem_nil, or_false] at member
  rcases member with rfl | rfl | rfl
  · exact ⟨rfl, fun _ => nofun⟩
  · exact ⟨rfl, fun _ => nofun⟩
  · refine ⟨rfl, fun other same => ?_⟩
    exact (Option.some.inj same).symm

theorem Batch.serves (h : Batch configuration deadline budget active emitted t active' outcome) :
    (∀ e ∈ t, e.1.Serves active.consumer) ∧ active'.consumer = active.consumer := by
  have keeps {active : ActiveSplit} {id : MessageId} {asked : Transcript} {result}
      (acked : (active.acknowledger.afterConsume active.consumer id).Yields asked result) :
      ∀ e ∈ asked, e.1.Serves active.consumer := fun e member =>
    (((active.acknowledger.afterConsume_meets active.consumer id).yields acked).1 e member).serves
  induction h with
  | full => exact ⟨List.forall_mem_nil _, rfl⟩
  | woken => exact ⟨List.forall_mem_singleton.mpr ⟨rfl, fun _ => nofun⟩, rfl⟩
  | late =>
      refine ⟨List.forall_mem_cons.mpr ⟨⟨rfl, fun _ => nofun⟩, ?_⟩, rfl⟩
      exact List.forall_mem_singleton.mpr ⟨rfl, fun _ => nofun⟩
  | quiet | refused | beyond => exact ⟨ActiveSplit.polled_serves _ _ _ _, rfl⟩
  | unacknowledged _ _ acked | last _ _ acked =>
      exact ⟨List.forall_mem_append.mpr ⟨ActiveSplit.polled_serves _ _ _ _, keeps acked⟩, rfl⟩
  | next _ _ acked _ ih =>
      obtain ⟨later, same⟩ := ih
      refine ⟨List.forall_mem_append.mpr ⟨?_, later⟩, same⟩
      exact List.forall_mem_append.mpr ⟨ActiveSplit.polled_serves _ _ _ _, keeps acked⟩

theorem ActiveSplit.Advance.serves {context : ReaderContext} {call : Call}
    (h : active.Advance context call active') :
    (∀ e ∈ call.asked, e.1.Serves active.consumer) ∧ active'.consumer = active.consumer := by
  cases h with
  | idle => exact ⟨List.forall_mem_singleton.mpr ⟨rfl, fun _ => nofun⟩, rfl⟩
  | batch _ _ batch =>
      obtain ⟨serves, same⟩ := batch.serves
      refine ⟨List.forall_mem_cons.mpr ⟨⟨rfl, fun _ => nofun⟩, ?_⟩, same⟩
      exact List.forall_mem_cons.mpr ⟨⟨rfl, fun _ => nofun⟩, serves⟩
  | snapshot => exact ⟨List.forall_mem_nil _, rfl⟩
  | complete completed =>
      refine ⟨fun e member => ?_, rfl⟩
      have keeps := ((active.acknowledger.checkpointComplete_meets _ _).yields completed).1
      exact (keeps e member).serves

end Serving

namespace SourceReader

open Transcript (Handles)

/-- The consumers of some splits. -/
def consumers (held : Multiset ActiveSplit) : Multiset ConsumerId :=
  held.map ActiveSplit.consumer

/-- An act opens a consumer, gives one back, or asks an open one. -/
theorem Does.handles {context : ReaderContext} {held held' : Multiset ActiveSplit} {act : Act}
    (does : Does context held act held') :
    Runs Handles (consumers held) act.asked (consumers held') := by
  have closing {active : ActiveSplit} {rest : Multiset ActiveSplit} {other : ReaderContext}
      {asked : Transcript} {reader : SplitReader}
      (closes : (SplitReader.reading other active).close.Yields asked reader) :
      Runs Handles (consumers (active ::ₘ rest)) asked (consumers rest) := by
    obtain ⟨flushed, reply, rfl, keeps⟩ := SplitReader.close_yields closes
    rw [consumers, Multiset.map_cons]
    have flushes := Handles.run_of_serves (Multiset.mem_cons_self active.consumer (consumers rest))
      fun e member => (keeps e member).serves
    exact flushes.append (.cons .closes (.nil _))
  cases does with
  | opened opening =>
      obtain ⟨questions, now, admin, asked⟩ := opening.asked
      rw [Act.asked, asked, consumers, consumers, Multiset.map_cons]
      refine (Handles.run_of_admin admin).append (.cons .opens ?_)
      refine .cons (.of_manages rfl ?_) (.cons (.aside rfl rfl rfl) (.nil _))
      intro consumer same
      rw [← Option.some.inj same]
      exact Multiset.mem_cons_self _ _
  | refused refusal =>
      cases refusal with
      | early admin => exact Handles.run_of_admin admin
      | unsubscribed admin =>
          exact (Handles.run_of_admin admin).append (.cons (.aside rfl rfl rfl) (.nil _))
      | unmoved admin =>
          refine (Handles.run_of_admin admin).append (.cons .opens ?_)
          refine .cons (.of_manages rfl ?_) (.cons .closes (.nil _))
          intro consumer same
          rw [← Option.some.inj same]
          exact Multiset.mem_cons_self _ _
  | called advance =>
      obtain ⟨serves, same⟩ := advance.serves
      rw [consumers, consumers, Multiset.map_cons, Multiset.map_cons, same]
      exact Handles.run_of_serves (Multiset.mem_cons_self _ _) serves
  | retired _ closes | shut closes => exact closing closes

theorem Does.run_handles {context : ReaderContext} {held held' : Multiset ActiveSplit}
    {acts : List Act} (run : Runs (Does context) held acts held') :
    Runs Handles (consumers held) (acts.flatMap Act.asked) (consumers held') := by
  induction run with
  | nil => exact .nil _
  | cons first _ ih =>
      rw [List.flatMap_cons]
      exact first.handles.append ih

end SourceReader

open SourceReader (Event)

namespace Lifetime

variable (s : Lifetime)

/-- All that was asked. -/
def transcript : Transcript := s.events.flatMap Event.asked

theorem handles :
    Runs Transcript.Handles 0 s.transcript (SourceReader.consumers s.reader.held) := by
  obtain ⟨acts, conduct⟩ := SourceReader.conduct_of_new s.runs
  rw [transcript, ← conduct.asked]
  exact SourceReader.Does.run_handles conduct.runs

/-- A broker makes a consumer of its own for each subscription. -/
def Distinct : Prop := s.transcript.opened.Nodup

variable {s}

/-- Each consumer that was made is closed once at most, and once it is closed it is not asked for
anything any more. When the reader is closed, all have been closed. -/
theorem closes_once (distinct : s.Distinct) : ∀ consumer ∈ s.transcript.opened,
    s.transcript.closed.count consumer ≤ 1 ∧
    ((∃ asked, .close asked ∈ s.events) → s.transcript.closed.count consumer = 1) ∧
    ∀ before reply after, s.transcript = before ++ ⟨.close consumer, reply⟩ :: after →
      ∀ e ∈ after, e.1.consumer? ≠ some consumer := by
  intro consumer made
  have balance := Transcript.Handles.balance s.handles
  rw [Multiset.zero_add] at balance
  have once := List.count_eq_one_of_mem distinct made
  have counts := congrArg (Multiset.count consumer) balance
  rw [Multiset.coe_count, Multiset.count_add, Multiset.coe_count, once] at counts
  refine ⟨by omega, ?_, fun _ _ _ => Transcript.Handles.not_asked_after s.handles distinct⟩
  intro ended
  have standing := SourceReader.standing_of_run s.runs
  obtain ⟨readers, retiring⟩ := standing.shut (standing.closed.mpr ended)
  have none : SourceReader.consumers s.reader.held = 0 := by
    rw [SourceReader.held, readers, retiring]
    rfl
  rw [none, Multiset.count_zero] at counts
  omega

theorem closes_once_ended : Sample.ended.Distinct ∧
    Sample.ended.transcript.closed.count ⟨0⟩ = 1 ∧
    Sample.ended.transcript.closed.count ⟨1⟩ = 1 := by
  have made : Sample.ended.transcript.opened = [⟨0⟩, ⟨1⟩] := rfl
  have distinct : Sample.ended.Distinct := by
    rw [Distinct, made]
    decide
  have closes := closes_once distinct
  rw [made] at closes
  obtain ⟨_, first, _⟩ := closes ⟨0⟩ List.mem_cons_self
  obtain ⟨_, second, _⟩ := closes ⟨1⟩ (List.mem_cons_of_mem _ List.mem_cons_self)
  have ended : ∃ asked, Event.close asked ∈ Sample.ended.events :=
    ⟨_, List.mem_append_right _ List.mem_cons_self⟩
  exact ⟨distinct, first ended, second ended⟩

end Lifetime
end TopicFeed
