import TopicFeed.Proofs.Dialogue
import TopicFeed.Reader.Acknowledger
import TopicFeed.Reader.Records
/-! What a reader's transcript says about messages. Only `receive` brings messages, so whatever an
acknowledger asks in between leaves the received messages as they are. -/
namespace TopicFeed

abbrev Transcript := Dialogue.Transcript Question.Reply

def Question.isReceive : Question → Bool
  | .receive _ _ => true
  | _ => false

def Question.isSeek : Question → Bool
  | .seek _ _ => true
  | _ => false

namespace Transcript

def messageOf : (q : Question) × q.Reply → Option Message
  | ⟨.receive _ _, .message m⟩ => some m
  | _ => none

def received (t : Transcript) : List Message := t.filterMap messageOf

/-- The part of the transcript in which messages were waited for. -/
def receipts (t : Transcript) : Transcript := t.filter fun e => e.1.isReceive

@[simp] theorem received_nil : received [] = [] := rfl

@[simp] theorem received_append (t u : Transcript) :
    (t ++ u).received = t.received ++ u.received := List.filterMap_append

@[simp] theorem receipts_append (t u : Transcript) :
    (t ++ u).receipts = t.receipts ++ u.receipts := List.filter_append ..

theorem received_receipts (t : Transcript) : t.receipts.received = t.received := by
  induction t with
  | nil => rfl
  | cons e rest ih =>
      obtain ⟨q, reply⟩ := e
      cases q with
      | receive consumer timeout =>
          simp only [receipts, received, List.filter_cons, Question.isReceive, if_true,
            List.filterMap_cons] at ih ⊢
          rw [ih]
      | _ => exact ih

theorem received_of_receipts {t : Transcript} (h : t.receipts = []) : t.received = [] := by
  rw [← received_receipts, h, received_nil]

end Transcript

def Question.isBookkeeping : Question → Bool
  | .acknowledge _ _ | .acknowledgeUpTo _ _ | .time => true
  | _ => false

/-- The question moves no consumer, and the program goes on after it. -/
def Question.stays : Question → Bool
  | .seek _ _ | .abort => false
  | _ => true

theorem Question.stays_of_bookkeeping {q : Question} (h : q.isBookkeeping = true) :
    q.stays = true := by
  cases q <;> simp_all [isBookkeeping, stays]

theorem Question.isSeek_of_stays {q : Question} (h : q.stays = true) : q.isSeek = false := by
  cases q <;> simp_all [isSeek, stays]

/-- The consumer that is asked for something. -/
def Question.consumer? : Question → Option ConsumerId
  | .receive consumer _ | .acknowledge consumer _ | .acknowledgeUpTo consumer _
  | .seek consumer _ | .close consumer => some consumer
  | .admin _ | .subscribe _ | .time | .isWoken | .clearWake | .abort => none

/-- Bookkeeping that concerns one consumer only. -/
def Question.Keeps (consumer : ConsumerId) (q : Question) : Prop :=
  q.isBookkeeping = true ∧ ∀ other ∈ q.consumer?, other = consumer

@[simp] theorem Question.keeps_acknowledge {consumer : ConsumerId} {id : MessageId} :
    (Question.acknowledge consumer id).Keeps consumer := by
  simp [Keeps, isBookkeeping, consumer?]

@[simp] theorem Question.keeps_acknowledgeUpTo {consumer : ConsumerId} {id : MessageId} :
    (Question.acknowledgeUpTo consumer id).Keeps consumer := by
  simp [Keeps, isBookkeeping, consumer?]

@[simp] theorem Question.keeps_time {consumer : ConsumerId} : Question.time.Keeps consumer := by
  simp [Keeps, isBookkeeping, consumer?]

theorem Transcript.receipts_of_keeps {t : Transcript} {consumer : ConsumerId}
    (h : ∀ e ∈ t, e.1.Keeps consumer) : t.receipts = [] := by
  apply List.filter_eq_nil_iff.mpr
  rintro ⟨q, reply⟩ member
  have asked := (h _ member).1
  cases q <;> simp_all [Question.isBookkeeping, Question.isReceive]

def Failure.Unacknowledged (splitId : String) (failure : Failure) : Prop :=
  ∃ id cause, failure = .acknowledge splitId id cause

namespace Acknowledger

open Dialogue

theorem acknowledgeEach_meets (splitId : String) (consumer : ConsumerId) (ids : List MessageId) :
    (acknowledgeEach splitId consumer ids).Meets (Question.Keeps consumer)
      fun outcome => ∀ left failure, outcome = .error (left, failure) →
        failure.Unacknowledged splitId := by
  induction ids with
  | nil => exact fun _ _ => nofun
  | cons id rest ih =>
      refine ⟨Question.keeps_acknowledge, fun reply => ?_⟩
      cases reply with
      | ok => exact ih
      | error cause =>
          intro left failure same
          cases same
          exact ⟨id, cause, rfl⟩

theorem acknowledge_meets (a : Acknowledger) (consumer : ConsumerId) (ids : List MessageId) :
    (a.acknowledge consumer ids).Meets (Question.Keeps consumer)
      fun outcome => ∀ left failure, outcome = .error (left, failure) →
        failure.Unacknowledged a.splitId := by
  rw [acknowledge]
  split
  · exact acknowledgeEach_meets a.splitId consumer ids
  · split
    · exact fun _ _ => nofun
    · next id _ =>
      refine ⟨Question.keeps_acknowledgeUpTo, fun reply => ?_⟩
      cases reply with
      | ok => exact fun _ _ => nofun
      | error cause =>
          intro left failure same
          cases same
          exact ⟨id, cause, rfl⟩

theorem commit_meets (a : Acknowledger) (consumer : ConsumerId) :
    (a.commit consumer).Meets (Question.Keeps consumer)
      fun result => ∀ failure, result.2 = .error failure → failure.Unacknowledged a.splitId := by
  apply (a.acknowledge_meets consumer a.uncommitted.toList).bind
  intro outcome named
  cases outcome with
  | ok => exact ⟨Question.keeps_time, fun _ _ => nofun⟩
  | error left =>
      intro failure same
      cases same
      exact named _ _ rfl

theorem afterConsume_meets (a : Acknowledger) (consumer : ConsumerId) (id : MessageId) :
    (a.afterConsume consumer id).Meets (Question.Keeps consumer)
      fun result => ∀ failure, result.2 = .error failure → failure.Unacknowledged a.splitId := by
  rw [afterConsume]
  split
  · exact fun _ => nofun
  · split
    · apply (a.acknowledge_meets consumer [id]).bind
      intro outcome named
      cases outcome with
      | ok => exact fun _ => nofun
      | error left =>
          intro failure same
          cases same
          exact named _ _ rfl
    · refine ⟨Question.keeps_time, fun now => ?_⟩
      simp only [Dialogue.pure_bind]
      split
      · exact commit_meets { a with uncommitted := some id } consumer
      · exact fun _ => nofun

theorem checkpointComplete_meets (a : Acknowledger) (consumer : ConsumerId)
    (checkpoint : UInt64) : (a.checkpointComplete consumer checkpoint).Meets
      (Question.Keeps consumer) fun _ => True := by
  apply (acknowledge_meets _ consumer _).bind
  intro outcome _
  cases outcome <;> trivial

section Yields

variable {a a' : Acknowledger} {consumer : ConsumerId} {t : Transcript}
  {outcome : Except Failure Unit}

theorem afterConsume_receipts {id : MessageId}
    (h : (a.afterConsume consumer id).Yields t (a', outcome)) : t.receipts = [] :=
  Transcript.receipts_of_keeps ((a.afterConsume_meets consumer id).yields h).1

theorem checkpointComplete_receipts {checkpoint : UInt64}
    (h : (a.checkpointComplete consumer checkpoint).Yields t (a', outcome)) : t.receipts = [] :=
  Transcript.receipts_of_keeps ((a.checkpointComplete_meets consumer checkpoint).yields h).1

end Yields
end Acknowledger
end TopicFeed
