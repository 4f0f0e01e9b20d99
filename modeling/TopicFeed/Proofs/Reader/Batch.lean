import Mathlib.Data.List.Induction
import TopicFeed.Proofs.Reader.Transcript
import TopicFeed.Reader.SplitReader
/-! What one batch can do. `Batch` has a rule for each way a round of the fetch loop can go, and the
loop follows these rules; all that is said of batches elsewhere is said by induction on them. -/
namespace TopicFeed

open Dialogue

namespace Records

/-- Records of one split only, none of them a finish. -/
def ofSplit (splitId : String) (messages : List Message) : Records :=
  messages.foldl (fun records m => records.add splitId m) .empty

theorem add_ofSplit (splitId : String) (messages : List Message) (m : Message) :
    (ofSplit splitId messages).add splitId m = ofSplit splitId (messages ++ [m]) := by
  rw [ofSplit, ofSplit, List.foldl_append]
  rfl

@[simp] theorem ofSplit_finished (splitId : String) (messages : List Message) :
    (ofSplit splitId messages).finished = ∅ := by
  induction messages using List.reverseRecOn with
  | nil => rfl
  | append_singleton messages m ih =>
      rw [← add_ofSplit]
      exact ih

theorem ofSplit_entries (splitId : String) (messages : List Message) (m : Message) :
    (ofSplit splitId (messages ++ [m])).bySplit.entries = [(splitId, messages ++ [m])] := by
  induction messages using List.reverseRecOn generalizing m with
  | nil => rfl
  | append_singleton messages last ih =>
      rw [← add_ofSplit, add, of, OrderedMap.get?, ih]
      simp only [List.lookup_cons_self, Option.getD_some, OrderedMap.insert, ih,
        OrderedMap.insertSorted, Std.ReflCmp.compare_self]

@[simp] theorem ofSplit_messages (splitId : String) (messages : List Message) :
    (ofSplit splitId messages).messages = messages := by
  induction messages using List.reverseRecOn with
  | nil => rfl
  | append_singleton messages m _ =>
      rw [Records.messages, OrderedMap.values, ofSplit_entries]
      simp

/-- Records of one split are of no other. -/
theorem of_ofSplit {splitId id : String} (other : id ≠ splitId) (messages : List Message) :
    (ofSplit splitId messages).of id = [] := by
  induction messages using List.reverseRecOn with
  | nil => rfl
  | append_singleton messages m ih =>
      rw [← add_ofSplit, of, add, OrderedMap.get?_insert, if_neg (by simpa using other)]
      exact ih

@[simp] theorem messages_markFinished (records : Records) (splitId : String) :
    (records.markFinished splitId).messages = records.messages := rfl

end Records

/-- The split after some messages have been consumed, one after the other. -/
def Split.recordAll (s : Split) (messages : List Message) : Split :=
  messages.foldl (fun s m => s.recordConsumed m.id) s

theorem Split.recordAll_append (s : Split) (messages later : List Message) :
    s.recordAll (messages ++ later) = (s.recordAll messages).recordAll later :=
  List.foldl_append

/-- Only the position moves, to the last of the messages. -/
theorem Split.recordAll_eq (s : Split) (messages : List Message) : s.recordAll messages =
    { s with latestConsumed := (messages.getLast?.map Message.id).or s.latestConsumed } := by
  induction messages using List.reverseRecOn with
  | nil => rfl
  | append_singleton messages m ih =>
      rw [recordAll_append, ih, List.getLast?_concat]
      rfl

@[simp] theorem Split.recordAll_id (s : Split) (messages : List Message) :
    (s.recordAll messages).id = s.id := by
  rw [recordAll_eq]
  rfl

@[simp] theorem Split.recordAll_stopCursor (s : Split) (messages : List Message) :
    (s.recordAll messages).stopCursor = s.stopCursor := by
  rw [recordAll_eq]

/-- A receipt that ends a batch and is neither a message nor a failure of it. -/
inductive Receipt.Quiet : Receipt → Prop
  | woken : Quiet .woken
  | nothing : Quiet .nothing
  | passing {cause : BrokerError} :
      (cause = .interrupted || cause.isTransient) = true → Quiet (.failed cause)

/-- A round of the loop up to the reply of the consumer. -/
def ActiveSplit.polled (active : ActiveSplit) (now : Instant) (timeout : Duration)
    (receipt : Receipt) : Transcript :=
  [⟨.isWoken, false⟩, ⟨.time, now⟩, ⟨.receive active.consumer timeout, receipt⟩]

/-- The split after it has finished, which its batch reports. -/
def ActiveSplit.done (active : ActiveSplit) : ActiveSplit :=
  { active with finished := true, finishReported := true }

def ActiveSplit.consume (active : ActiveSplit) (acknowledger : Acknowledger) (m : Message) :
    ActiveSplit :=
  { active with acknowledger, split := active.split.recordConsumed m.id }

/-- From a split and the messages emitted so far, a batch asks, and ends with a split and an
outcome. -/
inductive Batch (configuration : Configuration) (deadline : Instant) :
    Nat → ActiveSplit → List Message → Transcript → ActiveSplit → Except Failure Records → Prop
  | full {active emitted} :
      Batch configuration deadline 0 active emitted [] active
        (.ok (.ofSplit active.split.id emitted))
  | woken {budget active emitted} :
      Batch configuration deadline (budget + 1) active emitted [⟨.isWoken, true⟩] active
        (.ok (.ofSplit active.split.id emitted))
  | late {budget active emitted now} : deadline ≤ now →
      Batch configuration deadline (budget + 1) active emitted
        [⟨.isWoken, false⟩, ⟨.time, now⟩] active (.ok (.ofSplit active.split.id emitted))
  | quiet {budget active emitted now receipt} : ¬deadline ≤ now → receipt.Quiet →
      Batch configuration deadline (budget + 1) active emitted
        (active.polled now (min (deadline.since now) configuration.defaultFetchTime) receipt) active
        (.ok (.ofSplit active.split.id emitted))
  | refused {budget active emitted now cause} : ¬deadline ≤ now →
      ¬(cause = .interrupted || cause.isTransient) = true →
      Batch configuration deadline (budget + 1) active emitted
        (active.polled now (min (deadline.since now) configuration.defaultFetchTime)
          (.failed cause))
        active (.error (.poll active.split.id cause))
  | beyond {budget active emitted now m} : ¬deadline ≤ now →
      active.split.stopCursor.judge m = .terminate →
      Batch configuration deadline (budget + 1) active emitted
        (active.polled now (min (deadline.since now) configuration.defaultFetchTime) (.message m))
        active.done (.ok ((Records.ofSplit active.split.id emitted).markFinished active.split.id))
  | unacknowledged {budget active emitted now m asked acknowledger failure} : ¬deadline ≤ now →
      active.split.stopCursor.judge m ≠ .terminate →
      (active.acknowledger.afterConsume active.consumer m.id).Yields asked
        (acknowledger, .error failure) →
      Batch configuration deadline (budget + 1) active emitted
        (active.polled now (min (deadline.since now) configuration.defaultFetchTime) (.message m) ++
          asked)
        { active with acknowledger } (.error failure)
  | last {budget active emitted now m asked acknowledger} : ¬deadline ≤ now →
      active.split.stopCursor.judge m = .exactly →
      (active.acknowledger.afterConsume active.consumer m.id).Yields asked
        (acknowledger, .ok ()) →
      Batch configuration deadline (budget + 1) active emitted
        (active.polled now (min (deadline.since now) configuration.defaultFetchTime) (.message m) ++
          asked)
        (active.consume acknowledger m).done
        (.ok ((Records.ofSplit active.split.id (emitted ++ [m])).markFinished active.split.id))
  | next {budget active emitted now m asked acknowledger rest active' outcome} :
      ¬deadline ≤ now → active.split.stopCursor.judge m = .proceed →
      (active.acknowledger.afterConsume active.consumer m.id).Yields asked
        (acknowledger, .ok ()) →
      Batch configuration deadline budget (active.consume acknowledger m) (emitted ++ [m]) rest
        active' outcome →
      Batch configuration deadline (budget + 1) active emitted
        (active.polled now (min (deadline.since now) configuration.defaultFetchTime) (.message m) ++
          asked ++ rest)
        active' outcome

theorem SplitReader.fetchLoop_batch {configuration : Configuration} {deadline : Instant}
    {budget : Nat} {active active' : ActiveSplit} {emitted : List Message} {t : Transcript}
    {outcome : Except Failure Records}
    (h : (fetchLoop configuration deadline budget active
      (.ofSplit active.split.id emitted)).Yields t (active', outcome)) :
    Batch configuration deadline budget active emitted t active' outcome := by
  induction budget generalizing active emitted t with
  | zero =>
      obtain ⟨rfl, same⟩ := yields_done.mp h
      cases same
      exact .full
  | succ budget ih =>
      rw [fetchLoop] at h
      obtain ⟨wake, t, rfl, woken⟩ := yields_ask.mp h
      simp only [pure_bind] at woken
      split at woken
      · next yes =>
        obtain ⟨rfl, same⟩ := yields_done.mp woken
        cases same
        subst yes
        exact .woken
      next no =>
      have no : wake = false := by simpa using no
      subst no
      obtain ⟨now, t, rfl, timed⟩ := yields_ask.mp woken
      simp only [pure_bind] at timed
      split at timed
      · next ended =>
        obtain ⟨rfl, same⟩ := yields_done.mp timed
        cases same
        exact .late ended
      next early =>
      obtain ⟨receipt, t, rfl, polled⟩ := yields_ask.mp timed
      simp only [pure_bind] at polled
      cases receipt with
      | woken =>
          obtain ⟨rfl, same⟩ := yields_done.mp polled
          cases same
          exact .quiet early .woken
      | nothing =>
          obtain ⟨rfl, same⟩ := yields_done.mp polled
          cases same
          exact .quiet early .nothing
      | failed cause =>
          simp only at polled
          split at polled
          · next passing =>
            obtain ⟨rfl, same⟩ := yields_done.mp polled
            cases same
            exact .quiet early (.passing passing)
          · next hard =>
            obtain ⟨rfl, same⟩ := yields_done.mp polled
            cases same
            exact .refused early hard
      | message m =>
          simp only at polled
          split at polled
          · next beyond =>
            obtain ⟨rfl, same⟩ := yields_done.mp polled
            cases same
            exact .beyond early beyond
          next within =>
          obtain ⟨⟨acknowledger, acked⟩, asked, t, rfl, consumed, polled⟩ := yields_bind.mp polled
          cases acked with
          | error failure =>
              obtain ⟨rfl, same⟩ := yields_done.mp polled
              cases same
              rw [List.append_nil]
              exact .unacknowledged early within consumed
          | ok =>
              simp only [Split.recordConsumed_id, Records.add_ofSplit] at polled
              split at polled
              · next last =>
                obtain ⟨rfl, same⟩ := yields_done.mp polled
                cases same
                rw [List.append_nil]
                exact .last early last consumed
              · next more =>
                have proceeds : active.split.stopCursor.judge m = .proceed := by
                  cases verdict : active.split.stopCursor.judge m with
                  | proceed => rfl
                  | exactly => exact absurd verdict more
                  | terminate => exact absurd verdict within
                have batch := Batch.next early proceeds consumed (ih polled)
                exact batch

namespace Batch

variable {configuration : Configuration} {deadline : Instant} {budget : Nat}
  {active active' : ActiveSplit} {emitted : List Message} {t : Transcript}
  {outcome : Except Failure Records}

/-- How a batch ends, with the message it received last if that one was not simply emitted. -/
inductive Exit (active : ActiveSplit) (emitted : List Message) :
    List Message → ActiveSplit → Except Failure Records → Prop
  | paused : Exit active emitted [] active (.ok (.ofSplit active.split.id emitted))
  | refused {cause} : Exit active emitted [] active (.error (.poll active.split.id cause))
  | beyond {m} : active.split.stopCursor.judge m = .terminate →
      Exit active emitted [m] active.done
        (.ok ((Records.ofSplit active.split.id emitted).markFinished active.split.id))
  | unacknowledged {m acknowledger splitId id cause} :
      active.split.stopCursor.judge m ≠ .terminate →
      Exit active emitted [m] { active with acknowledger } (.error (.acknowledge splitId id cause))
  | last {m acknowledger} : active.split.stopCursor.judge m = .exactly →
      Exit active emitted [m] (active.consume acknowledger m).done
        (.ok ((Records.ofSplit active.split.id (emitted ++ [m])).markFinished active.split.id))

/-- A batch emits messages that let the split go on, and then comes to one of its ends. -/
theorem exits (h : Batch configuration deadline budget active emitted t active' outcome) :
    ∃ taken rest acknowledger, t.received = taken ++ rest ∧
      (∀ m ∈ taken, active.split.stopCursor.judge m = .proceed) ∧
      Exit { active with acknowledger, split := active.split.recordAll taken } (emitted ++ taken)
        rest active' outcome := by
  induction h with
  | @full active emitted | @woken _ active emitted | @late _ active emitted =>
      refine ⟨[], [], active.acknowledger, rfl, List.forall_mem_nil _, ?_⟩
      rw [List.append_nil]
      exact .paused
  | @quiet _ active emitted now receipt _ quiet =>
      refine ⟨[], [], active.acknowledger, ?_, List.forall_mem_nil _, ?_⟩
      · cases quiet <;> rfl
      · rw [List.append_nil]
        exact .paused
  | @refused _ active emitted =>
      refine ⟨[], [], active.acknowledger, rfl, List.forall_mem_nil _, ?_⟩
      exact .refused
  | @beyond _ active emitted now m _ beyond =>
      refine ⟨[], [m], active.acknowledger, rfl, List.forall_mem_nil _, ?_⟩
      rw [List.append_nil]
      exact .beyond beyond
  | @unacknowledged _ active emitted now m asked acknowledger failure _ within acked =>
      have silent := Acknowledger.afterConsume_receipts acked
      obtain ⟨id, cause, rfl⟩ := ((Acknowledger.afterConsume_meets _ _ _).yields acked).2 _ rfl
      refine ⟨[], [m], active.acknowledger, ?_, List.forall_mem_nil _, .unacknowledged within⟩
      rw [Transcript.received_append, Transcript.received_of_receipts silent]
      rfl
  | @last _ active emitted now m asked acknowledger _ last acked =>
      have silent := Acknowledger.afterConsume_receipts acked
      refine ⟨[], [m], active.acknowledger, ?_, List.forall_mem_nil _, ?_⟩
      · rw [Transcript.received_append, Transcript.received_of_receipts silent]
        rfl
      · rw [List.append_nil]
        exact .last last
  | @next _ active emitted now m asked acknowledger later active' outcome _ proceeds acked _ ih =>
      have silent := Acknowledger.afterConsume_receipts acked
      obtain ⟨taken, rest, acknowledger', brought, all, exit⟩ := ih
      refine ⟨m :: taken, rest, acknowledger', ?_, ?_, ?_⟩
      · rw [Transcript.received_append, Transcript.received_append,
          Transcript.received_of_receipts silent, brought]
        rfl
      · exact List.forall_mem_cons.mpr ⟨proceeds, all⟩
      · rw [List.append_assoc] at exit
        exact exit

/-- Nothing is received after a message that does not let the split go on. -/
theorem receipts_pairwise
    (h : Batch configuration deadline budget active emitted t active' outcome) :
    t.receipts.Pairwise fun earlier _ => ∀ m ∈ Transcript.messageOf earlier,
      active.split.stopCursor.judge m = .proceed := by
  induction h with
  | full | woken | late => exact .nil
  | quiet | refused | beyond => exact List.pairwise_singleton ..
  | unacknowledged _ _ acked | last _ _ acked =>
      rw [Transcript.receipts_append, Acknowledger.afterConsume_receipts acked]
      exact List.pairwise_singleton ..
  | next _ proceeds acked _ ih =>
      rw [Transcript.receipts_append, Transcript.receipts_append,
        Acknowledger.afterConsume_receipts acked]
      refine List.pairwise_cons.mpr ⟨fun _ _ m brought => ?_, ih⟩
      cases brought
      exact proceeds

end Batch
end TopicFeed
