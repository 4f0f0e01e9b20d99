import TopicFeed.Proofs.Reader.Batch
import TopicFeed.Proofs.Reader.Opening
import TopicFeed.Proofs.Run
import TopicFeed.Proofs.Sample
/-! Sessions of a split reader: it opens a split and is then called any number of times. `Advance`
says all that a call can do to the open split. -/
namespace TopicFeed

open Dialogue

/-- A call of a reader that has a split, with what was asked in it and what came of it. -/
inductive Call where
  | fetch (asked : Transcript) (outcome : Except Failure Records)
  | snapshot (checkpoint : UInt64) (saved : Option Split)
  | complete (checkpoint : UInt64) (asked : Transcript) (outcome : Except Failure Unit)

namespace Call

def asked : Call → Transcript
  | fetch asked _ | complete _ asked _ => asked
  | snapshot _ _ => []

def records : Call → List Message
  | fetch _ (.ok records) => records.messages
  | _ => []

def finished : Call → List String
  | fetch _ (.ok records) => records.finished.toList
  | _ => []

def isFetch : Call → Bool
  | fetch _ _ => true
  | _ => false

/-- The call is no fetch that failed. -/
def Succeeds : Call → Prop
  | fetch _ outcome => outcome.isOk
  | _ => True

instance : DecidablePred Succeeds
  | fetch _ outcome => inferInstanceAs (Decidable (outcome.isOk = true))
  | snapshot _ _ | complete _ _ _ => isTrue trivial

end Call

def askedIn (calls : List Call) : Transcript := calls.flatMap Call.asked

def receivedIn (calls : List Call) : List Message := (askedIn calls).received

def emittedIn (calls : List Call) : List Message := calls.flatMap Call.records

@[simp] theorem askedIn_cons (call : Call) (calls : List Call) :
    askedIn (call :: calls) = call.asked ++ askedIn calls := List.flatMap_cons ..

@[simp] theorem receivedIn_cons (call : Call) (calls : List Call) :
    receivedIn (call :: calls) = call.asked.received ++ receivedIn calls := by
  rw [receivedIn, askedIn_cons, Transcript.received_append, receivedIn]

@[simp] theorem emittedIn_cons (call : Call) (calls : List Call) :
    emittedIn (call :: calls) = call.records ++ emittedIn calls := List.flatMap_cons ..

theorem receivedIn_append (calls later : List Call) :
    receivedIn (calls ++ later) = receivedIn calls ++ receivedIn later := by
  rw [receivedIn, askedIn, List.flatMap_append, Transcript.received_append]
  rfl

theorem emittedIn_append (calls later : List Call) :
    emittedIn (calls ++ later) = emittedIn calls ++ emittedIn later := List.flatMap_append

theorem mem_receivedIn {calls : List Call} {m : Message} :
    m ∈ receivedIn calls ↔ ∃ call ∈ calls, m ∈ call.asked.received := by
  induction calls with
  | nil => simp [receivedIn, askedIn]
  | cons call calls ih =>
      simp only [receivedIn_cons, List.mem_append, ih, List.mem_cons, exists_eq_or_imp]

namespace SplitReader

inductive Step : SplitReader → Call → SplitReader → Prop
  | fetch {r r' : SplitReader} {asked outcome} : r.fetch.Yields asked (r', outcome) →
      Step r (.fetch asked outcome) r'
  | snapshot {r : SplitReader} {checkpoint} :
      Step r (.snapshot checkpoint (r.snapshot checkpoint).2) (r.snapshot checkpoint).1
  | complete {r r' : SplitReader} {checkpoint asked outcome} :
      (r.checkpointComplete checkpoint).Yields asked (r', outcome) →
      Step r (.complete checkpoint asked outcome) r'

def reading (context : ReaderContext) (active : ActiveSplit) : SplitReader :=
  { new context with active := some active }

end SplitReader

/-- A split that a new reader opened, and the calls since. -/
structure Session where
  context : ReaderContext
  split : Split
  opening : Transcript
  opened : ActiveSplit
  calls : List Call
  reader : SplitReader
  opens : ((SplitReader.new context).changeSplits (.addition [split])).Yields opening
    (.reading context opened, .ok ())
  runs : Runs SplitReader.Step (.reading context opened) calls reader

/-- What a call does to a split that is open. -/
inductive ActiveSplit.Advance (context : ReaderContext) (active : ActiveSplit) :
    Call → ActiveSplit → Prop
  | idle : active.finished = true →
      Advance context active
        (.fetch [⟨.clearWake, ()⟩] (.ok (if active.finishReported then .empty
          else Records.empty.markFinished active.split.id)))
        { active with finishReported := true }
  | batch {now deadline asked active' outcome} : active.finished = false →
      now.after? context.configuration.maxFetchTime = some deadline →
      Batch context.configuration deadline context.configuration.maxFetchRecords active [] asked
        active' outcome →
      Advance context active (.fetch (⟨.clearWake, ()⟩ :: ⟨.time, now⟩ :: asked) outcome) active'
  | snapshot {checkpoint} :
      Advance context active
        (.snapshot checkpoint (if active.finished then none else some active.split))
        { active with acknowledger := active.acknowledger.snapshot checkpoint }
  | complete {checkpoint asked outcome acknowledger} :
      (active.acknowledger.checkpointComplete active.consumer checkpoint).Yields asked
        (acknowledger, outcome) →
      Advance context active (.complete checkpoint asked outcome) { active with acknowledger }

namespace SplitReader

theorem step_advance {context : ReaderContext} {active : ActiveSplit} {call : Call}
    {r : SplitReader} (step : Step (reading context active) call r) :
    ∃ active', r = reading context active' ∧ active.Advance context call active' := by
  cases step with
  | snapshot => exact ⟨_, rfl, .snapshot⟩
  | complete h =>
      obtain ⟨⟨acknowledger, result⟩, first, rest, rfl, completed, final⟩ := yields_bind.mp h
      obtain ⟨rfl, same⟩ := yields_done.mp final
      cases same
      rw [List.append_nil]
      exact ⟨_, rfl, .complete completed⟩
  | fetch h =>
      obtain ⟨cleared, t, rfl, next⟩ := yields_ask.mp h
      simp only [pure_bind, reading, new] at next
      split at next
      · next ended =>
        obtain ⟨rfl, same⟩ := yields_done.mp next
        cases same
        exact ⟨_, rfl, .idle ended⟩
      · next unfinished =>
        obtain ⟨now, t, rfl, timed⟩ := yields_ask.mp next
        simp only [pure_bind] at timed
        split at timed
        · obtain ⟨⟨⟩, _⟩ := yields_ask.mp timed
        · next deadline ahead =>
          obtain ⟨⟨active', result⟩, first, rest, rfl, looped, final⟩ := yields_bind.mp timed
          obtain ⟨rfl, same⟩ := yields_done.mp final
          cases same
          rw [List.append_nil]
          exact ⟨active', rfl,
            .batch (by simpa using unfinished) ahead (fetchLoop_batch looped)⟩

/-- A consumer is moved when a split is opened, and never again. -/
theorem fetchLoop_meets (configuration : Configuration) (deadline : Instant) (budget : Nat)
    (active : ActiveSplit) (records : Records) :
    (fetchLoop configuration deadline budget active records).Meets (fun q => q.stays = true)
      fun _ => True := by
  induction budget generalizing active records with
  | zero => trivial
  | succ budget ih =>
      rw [fetchLoop]
      refine ⟨rfl, fun woken => ?_⟩
      simp only [pure_bind]
      split
      · trivial
      refine ⟨rfl, fun now => ?_⟩
      simp only [pure_bind]
      split
      · trivial
      refine ⟨rfl, fun receipt => ?_⟩
      simp only [pure_bind]
      cases receipt with
      | woken | nothing => trivial
      | failed cause =>
          simp only
          split <;> trivial
      | message m =>
          simp only
          split
          · trivial
          · apply ((active.acknowledger.afterConsume_meets active.consumer m.id).mono
              fun q keeps => Question.stays_of_bookkeeping keeps.1).bind
            intro result _
            obtain ⟨acknowledger, outcome⟩ := result
            cases outcome with
            | error failure => trivial
            | ok =>
                simp only
                split
                · trivial
                · exact ih ..

theorem fetch_meets (r : SplitReader) :
    r.fetch.Meets (fun q => q.isSeek = false) fun _ => True := by
  rw [fetch]
  split
  · trivial
  refine ⟨rfl, fun _ => ?_⟩
  simp only [pure_bind]
  split
  · trivial
  split
  · trivial
  refine ⟨rfl, fun now => ?_⟩
  simp only [pure_bind]
  split
  · refine ⟨rfl, fun reply => ?_⟩
    cases reply
  apply ((fetchLoop_meets ..).mono fun _ => Question.isSeek_of_stays).bind
  intro _ _
  trivial

theorem checkpointComplete_meets (r : SplitReader) (checkpoint : UInt64) :
    (r.checkpointComplete checkpoint).Meets (fun q => q.isSeek = false) fun _ => True := by
  rw [checkpointComplete]
  split
  · trivial
  next active _ =>
  apply ((active.acknowledger.checkpointComplete_meets active.consumer checkpoint).mono
    fun q keeps => Question.isSeek_of_stays (Question.stays_of_bookkeeping keeps.1)).bind
  intro _ _
  trivial

/-- A new reader that takes a split has opened it. -/
theorem changeSplits_opening {context : ReaderContext} {split : Split} {t : Transcript}
    {reader : SplitReader}
    (h : ((new context).changeSplits (.addition [split])).Yields t (reader, .ok ())) :
    ∃ opened, reader = reading context opened ∧ Opening context split t opened := by
  obtain ⟨result, first, rest, rfl, openedBy, final⟩ := yields_bind.mp h
  cases result with
  | error failure => exact nomatch (yields_done.mp final).2
  | ok opened =>
      obtain ⟨rfl, same⟩ := yields_done.mp final
      cases same
      rw [List.append_nil]
      exact ⟨opened, rfl, openSplit_opening openedBy⟩

theorem Step.still {r r' : SplitReader} {call : Call} (step : Step r call r') :
    ∀ e ∈ call.asked, e.1.isSeek = false := by
  cases step with
  | snapshot => exact List.forall_mem_nil _
  | complete h => exact ((r.checkpointComplete_meets _).yields h).1
  | fetch h => exact (r.fetch_meets.yields h).1

end SplitReader

namespace Session

variable (s : Session)

theorem opening_opened : SplitReader.Opening s.context s.split s.opening s.opened := by
  obtain ⟨opened, same, opening⟩ := SplitReader.changeSplits_opening s.opens
  cases same
  exact opening

theorem advances : ∃ current, s.reader = .reading s.context current ∧
    Runs (ActiveSplit.Advance s.context) s.opened s.calls current :=
  s.runs.of_form fun _ _ _ => SplitReader.step_advance

theorem still : ∀ e ∈ askedIn s.calls, e.1.isSeek = false := by
  intro e member
  obtain ⟨call, among, asked⟩ := List.mem_flatMap.mp member
  exact s.runs.labels SplitReader.Step.still call among e asked

/-- All that was asked, from the opening on. -/
def transcript : Transcript := s.opening ++ askedIn s.calls

/-- Where the split ends, as it was resolved when it was opened. -/
def stopCursor : StopCursor := s.opened.split.stopCursor

def Succeeds : Prop := ∀ call ∈ s.calls, call.Succeeds

instance : Decidable s.Succeeds := inferInstanceAs (Decidable (∀ call ∈ s.calls, call.Succeeds))

end Session
/-! A small setting in which sessions can be written down. -/
namespace Sample

def context : ReaderContext := ⟨configuration, false⟩

def consumer : ConsumerId := ⟨0⟩

def message (entry : Int64) : Message := ⟨⟨0, entry, -1⟩, "t", none, [], 0, none⟩

def split (stopCursor : StopCursor) : Split :=
  .fresh ⟨"t", Partition.unpartitioned, [.full], .split⟩ .earliest stopCursor

def opening (split : Split) : Transcript :=
  [⟨.subscribe (SplitReader.consumerOptions context split.partition), .ok consumer⟩,
    ⟨.seek consumer split.seekPosition, .ok ()⟩, ⟨.time, .zero⟩]

def opened (split : Split) : ActiveSplit where
  split := split
  consumer := consumer
  acknowledger := .new split.id .shared true (.ofSeconds 5) .zero
  finished := split.stopCursor.isExhausted
  finishReported := false

def fetching : Transcript := [⟨.clearWake, ()⟩, ⟨.time, .zero⟩]

def receives (receipt : Receipt) : Transcript :=
  [⟨.isWoken, false⟩, ⟨.time, .zero⟩, ⟨.receive consumer (.ofMilliseconds 100), receipt⟩]

/-- A round that brings a message, and its acknowledgement. -/
def takes (entry : Int64) (acknowledged : Except BrokerError Unit) : Transcript :=
  receives (.message (message entry)) ++ [⟨.acknowledge consumer (message entry).id, acknowledged⟩]

end Sample
end TopicFeed
