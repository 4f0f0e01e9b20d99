import Mathlib.Data.List.Induction
import TopicFeed.Proofs.Reader.Settlement
import TopicFeed.Proofs.Reader.Timing
/-! Acknowledgements that are automatic and cumulative. Of the messages consumed in a while only the
newest is acknowledged. What is held back is replaced by newer messages and kept when it is refused,
so that it is the newest one that the next acknowledgement names. -/
namespace TopicFeed

open Dialogue

namespace Transcript

/-- A transcript that began when `made` says ends now. An acknowledgement in it was taken at the
time `since`, unless that is the beginning. -/
def CommittedAt (made since now : Instant) (t : Transcript) : Prop :=
  ∃ earlier later, t = earlier ++ later ∧ (∀ last ∈ earlier.getLast?, isTaken last = true) ∧
    Lasts Question.Slow made earlier since ∧ Lasts Question.Slow since later now

/-- Acknowledgements come no sooner than an interval after any that was taken before, and after the
beginning. -/
def Spaced (made : Instant) (interval : Duration) (t : Transcript) : Prop :=
  ∀ before e after since now, t = before ++ e :: after → e.1.named?.isSome →
    CommittedAt made since now before → interval ≤ now.since since

section Times

variable {made since now : Instant} {interval : Duration} {t u : Transcript}

theorem CommittedAt.le (committed : t.CommittedAt made since now) : since ≤ now := by
  obtain ⟨earlier, later, -, -, -, lasts⟩ := committed
  exact lasts.le

/-- Where nothing is taken, the last time is an earlier one. -/
theorem CommittedAt.of_append (committed : (t ++ u).CommittedAt made since now)
    (idle : ∀ e ∈ u, isTaken e = false) :
    ∃ middle, t.CommittedAt made since middle ∧ u.Lasts Question.Slow middle now := by
  obtain ⟨earlier, later, whole, taken, first, second⟩ := committed
  rcases List.append_eq_append_iff.mp whole with ⟨part, rfl, rfl⟩ | ⟨part, rfl, rfl⟩
  · rcases List.eq_nil_or_concat part with rfl | ⟨part, last, rfl⟩
    · rw [List.append_nil] at first taken
      exact ⟨since, ⟨t, [], (List.append_nil t).symm, taken, first, .nil since⟩, second⟩
    · -- The last that was taken would be among questions of which none is.
      have here := taken last (by simp)
      have never := idle last (by simp)
      rw [here] at never
      cases never
  · obtain ⟨middle, second, third⟩ := Runs.append_iff.mp second
    exact ⟨middle, ⟨earlier, part, rfl, taken, first, second⟩, third⟩

/-- A clock that is read last tells a time after everything was acknowledged. -/
theorem CommittedAt.le_told {told : Instant}
    (committed : CommittedAt made since now (t ++ [⟨.time, told⟩])) :
    told = now ∧ ∃ middle, t.CommittedAt made since middle ∧ since ≤ told := by
  obtain ⟨middle, before, clock⟩ := committed.of_append (by simp [isTaken])
  obtain ⟨same, _, ⟨⟩, le⟩ := Lasts.told (t := []) clock
  exact ⟨same, middle, before, Instant.le_trans before.le le⟩

theorem spaced_nil : Spaced made interval [] := by
  intro before e after _ _ whole
  simp at whole

theorem Spaced.concat {e : (q : Question) × q.Reply} (spaced : t.Spaced made interval)
    (here : ∀ since now, e.1.named?.isSome → t.CommittedAt made since now →
      interval ≤ now.since since) : (t ++ [e]).Spaced made interval := by
  intro before other after since now whole named committed
  rcases List.eq_nil_or_concat after with rfl | ⟨after, last, rfl⟩
  · obtain ⟨rfl, same⟩ := List.append_inj' whole rfl
    cases same
    exact here since now named committed
  · rw [List.concat_eq_append, ← List.cons_append, ← List.append_assoc] at whole
    obtain ⟨rfl, _⟩ := List.append_inj' whole rfl
    exact spaced before other after since now rfl named committed

/-- Other questions keep no distance. -/
theorem Spaced.concat_time {told : Instant} (spaced : t.Spaced made interval) :
    Spaced made interval (t ++ [⟨.time, told⟩]) := spaced.concat fun _ _ named => nomatch named

end Times
end Transcript

namespace Acknowledger

variable {a a' : Acknowledger} {consumer : ConsumerId} {call : Call} {t : Transcript}
  {outcome : Except Failure Unit} {interval : Duration}

/-- What a commit comes to. -/
inductive Commit (a : Acknowledger) : Transcript → Acknowledger → Except Failure Unit → Prop
  | nothing {now} : a.uncommitted = none →
      Commit a [⟨.time, now⟩] { a with uncommitted := none, lastCommit := now } (.ok ())
  | taken {consumer : ConsumerId} {id now} : a.uncommitted = some id →
      Commit a [⟨.acknowledgeUpTo consumer id, .ok ()⟩, ⟨.time, now⟩]
        { a with uncommitted := none, lastCommit := now } (.ok ())
  | refused {consumer : ConsumerId} {id cause} : a.uncommitted = some id →
      Commit a [⟨.acknowledgeUpTo consumer id, .error cause⟩] a
        (.error (.acknowledge a.splitId id cause))

theorem commit_spec (cumulative : a.strategy = .cumulative)
    (h : (a.commit consumer).Yields t (a', outcome)) : a.Commit t a' outcome := by
  obtain ⟨result, first, rest, rfl, acknowledged, final⟩ := yields_bind.mp h
  rw [acknowledge, cumulative] at acknowledged
  cases held : a.uncommitted with
  | none =>
      rw [held] at acknowledged
      obtain ⟨rfl, rfl⟩ := yields_done.mp acknowledged
      obtain ⟨now, rest, rfl, next⟩ := yields_ask.mp final
      obtain ⟨rfl, same⟩ := yields_done.mp next
      cases same
      exact .nothing held
  | some id =>
      rw [held] at acknowledged
      obtain ⟨reply, _, rfl, next⟩ := yields_ask.mp acknowledged
      cases reply with
      | error cause =>
          obtain ⟨rfl, rfl⟩ := yields_done.mp next
          obtain ⟨rfl, same⟩ := yields_done.mp final
          cases same
          exact .refused held
      | ok =>
          obtain ⟨rfl, rfl⟩ := yields_done.mp next
          obtain ⟨now, rest, rfl, next⟩ := yields_ask.mp final
          obtain ⟨rfl, same⟩ := yields_done.mp next
          cases same
          exact .taken held

/-- An acknowledger that leaves nothing to checkpoints and holds acknowledgements back. -/
structure Throttles (interval : Duration) (a : Acknowledger) : Prop where
  automatic : a.automatic = true
  cumulative : a.strategy = .cumulative
  commitInterval : a.commitInterval = interval
  inFlight : a.inFlight = []
  pending : a.pending = ∅

/-- What a call does to such an acknowledger. -/
inductive Hold (a : Acknowledger) : Call → Acknowledger → Prop
  | held {id now} : ¬a.commitInterval ≤ now.since a.lastCommit →
      Hold a (.consume id [⟨.time, now⟩] (.ok ())) { a with uncommitted := some id }
  | committed {consumer : ConsumerId} {id now later} : a.commitInterval ≤ now.since a.lastCommit →
      Hold a (.consume id [⟨.time, now⟩, ⟨.acknowledgeUpTo consumer id, .ok ()⟩, ⟨.time, later⟩]
        (.ok ())) { a with uncommitted := none, lastCommit := later }
  | refused {consumer : ConsumerId} {id now cause} : a.commitInterval ≤ now.since a.lastCommit →
      Hold a (.consume id [⟨.time, now⟩, ⟨.acknowledgeUpTo consumer id, .error cause⟩]
        (.error (.acknowledge a.splitId id cause))) { a with uncommitted := some id }
  | idle {call : Call} : call.asked = [] → call.consumed = [] → Hold a call a

theorem Step.hold (step : Step a call a') (throttles : a.Throttles interval) : a.Hold call a' := by
  have cumulative := throttles.cumulative
  cases step with
  | @consume consumer _ _ id asked outcome h =>
      rw [afterConsume, if_neg (by simp [throttles.automatic])] at h
      split at h
      · next individual =>
        rw [cumulative] at individual
        cases individual
      obtain ⟨now, rest, rfl, next⟩ := yields_ask.mp h
      rw [pure_bind] at next
      split at next
      · next due =>
        have spec : Commit { a with uncommitted := some id } rest a' outcome :=
          commit_spec cumulative next
        cases spec with
        | nothing none => cases none
        | taken same =>
            cases same
            exact .committed due
        | refused same =>
            cases same
            exact .refused due
      · next early =>
        obtain ⟨rfl, same⟩ := yields_done.mp next
        cases same
        exact .held early
  | snapshot =>
      rw [Acknowledger.snapshot, if_pos (by simp [throttles.inFlight])]
      exact .idle rfl rfl
  | @complete consumer _ _ checkpoint asked outcome h =>
      have kept : a.pending.filter (fun c _ => checkpoint < c) = a.pending := by
        rw [throttles.pending]
        rfl
      rw [checkpointComplete, kept] at h
      obtain ⟨result, first, rest, rfl, acknowledged, final⟩ := yields_bind.mp h
      rw [acknowledge, cumulative, throttles.pending] at acknowledged
      obtain ⟨rfl, rfl⟩ := yields_done.mp acknowledged
      obtain ⟨rfl, same⟩ := yields_done.mp final
      cases same
      exact .idle rfl rfl

theorem Hold.throttles (hold : a.Hold call a') (throttles : a.Throttles interval) :
    a'.Throttles interval := by
  cases hold with
  | held | committed | refused | idle => exact { throttles with }

/-- What is known of such an acknowledger, after these questions and these messages. -/
structure Paced (made : Instant) (interval : Duration) (t : Transcript) (ids : List MessageId)
    (a : Acknowledger) : Prop where
  throttles : a.Throttles interval
  settled : a.uncommitted = none → t.acknowledged.getLast? = ids.getLast?
  newest : ∀ id, a.uncommitted = some id → ids.getLast? = some id
  recent : ∀ since now, t.CommittedAt made since now → since ≤ a.lastCommit
  spaced : t.Spaced made interval

section Calls

variable {made : Instant} {ids : List MessageId}

theorem paced_new {splitId : String} {type : SubscriptionType} (ordered : type.isOrdered = true) :
    Paced made interval [] [] (.new splitId type true interval made) where
  throttles := ⟨rfl, if_pos ordered, rfl, rfl, rfl⟩
  settled := fun _ => rfl
  newest := nofun
  recent := by
    rintro since now ⟨earlier, later, whole, -, lasts, -⟩
    obtain ⟨rfl, -⟩ := List.append_eq_nil_iff.mp whole.symm
    cases lasts
    exact Nat.le_refl _
  spaced := Transcript.spaced_nil

/-- What is acknowledged once the clock allows it comes long enough after the last commit. -/
theorem Paced.attempt {now : Instant} {e : (q : Question) × q.Reply}
    (paced : Paced made interval t ids a) (due : a.commitInterval ≤ now.since a.lastCommit) :
    Transcript.Spaced made interval (t ++ [⟨.time, now⟩] ++ [e]) := by
  apply paced.spaced.concat_time.concat
  intro since now' _ committed
  obtain ⟨rfl, middle, before, le⟩ := committed.le_told
  have recent := paced.recent since middle before
  rw [paced.throttles.commitInterval] at due
  simp only [Duration.le_def, Instant.nanoseconds_since, Instant.le_def] at *
  omega

theorem Paced.hold (paced : Paced made interval t ids a) (hold : a.Hold call a') :
    Paced made interval (t ++ call.asked) (ids ++ call.consumed) a' := by
  have throttles := hold.throttles paced.throttles
  cases hold with
  | @held id now =>
      refine ⟨throttles, nofun, ?_, ?_, paced.spaced.concat_time⟩
      · rintro _ ⟨⟩
        exact List.getLast?_concat ..
      · intro since later committed
        obtain ⟨middle, before, -⟩ := committed.le_told.2
        exact paced.recent since middle before
  | @committed consumer id now later due =>
      have whole : t ++ [⟨.time, now⟩, ⟨.acknowledgeUpTo consumer id, .ok ()⟩, ⟨.time, later⟩] =
          t ++ [⟨.time, now⟩] ++ [⟨.acknowledgeUpTo consumer id, .ok ()⟩] ++ [⟨.time, later⟩] := by
        simp
      refine ⟨throttles, fun _ => ?_, nofun, ?_, ?_⟩
      · rw [Transcript.acknowledged_append]
        exact (List.getLast?_concat ..).trans (List.getLast?_concat ..).symm
      · -- The clock is read again once the acknowledgement is taken, and this is what counts.
        intro since finish committed
        rw [Call.asked, whole] at committed
        obtain ⟨-, middle, -, le⟩ := committed.le_told
        exact le
      · rw [Call.asked, whole]
        exact (paced.attempt due).concat_time
  | @refused consumer id now cause due =>
      refine ⟨throttles, nofun, ?_, ?_, ?_⟩
      · rintro _ ⟨⟩
        exact List.getLast?_concat ..
      · intro since later committed
        obtain ⟨middle, before, -⟩ := committed.of_append
          (by simp [Call.asked, Transcript.isTaken, Except.isOk, Except.toBool])
        exact paced.recent since middle before
      · rw [Call.asked, List.append_cons]
        exact paced.attempt due
  | idle silent nothing =>
      rw [silent, nothing, List.append_nil, List.append_nil]
      exact paced

theorem paced_of_run {calls : List Call} {splitId : String} {type : SubscriptionType}
    (ordered : type.isOrdered = true)
    (run : Runs Step (.new splitId type true interval made) calls a) :
    Paced made interval (asked calls) (consumed calls) a := by
  apply run.traced (P := fun calls a => Paced made interval (asked calls) (consumed calls) a)
    (paced_new ordered)
  intro before call after a a' _ paced step
  have moved := paced.hold (step.hold paced.throttles)
  rw [asked_concat, consumed_append]
  simpa [consumed] using moved

end Calls
end Acknowledger

/-- All that is acknowledged is this message, and with it all before it. -/
def Transcript.AcknowledgesOnly (newest : Option MessageId) (t : Transcript) : Prop :=
  ∀ e ∈ t, e.1 = .time ∨ ∃ consumer id, newest = some id ∧ e.1 = .acknowledgeUpTo consumer id

namespace Acknowledger

variable {a a' : Acknowledger} {call : Call} {t : Transcript} {outcome : Except Failure Unit}
  {ids : List MessageId}

theorem Hold.acknowledgesOnly (hold : a.Hold call a') (ids : List MessageId) :
    call.asked.AcknowledgesOnly (ids ++ call.consumed).getLast? := by
  cases hold with
  | held => simp [Transcript.AcknowledgesOnly, Call.asked]
  | committed | refused => simp [Transcript.AcknowledgesOnly, Call.asked, Call.consumed]
  | idle silent => simp [Transcript.AcknowledgesOnly, silent]

theorem Commit.acknowledgesOnly (commit : a.Commit t a' outcome)
    (newest : ∀ id, a.uncommitted = some id → ids.getLast? = some id) :
    t.AcknowledgesOnly ids.getLast? := by
  cases commit with
  | nothing => simp [Transcript.AcknowledgesOnly]
  | taken held | refused held => simp [Transcript.AcknowledgesOnly, newest _ held]

/-- A commit that succeeds leaves nothing to acknowledge. -/
theorem Commit.settles {u : Transcript} {made : Instant} {interval : Duration}
    (commit : a.Commit u a' outcome) (paced : Paced made interval t ids a)
    (succeeds : outcome = .ok ()) : (t ++ u).acknowledged.getLast? = ids.getLast? := by
  rw [Transcript.acknowledged_append]
  cases commit with
  | nothing none =>
      rw [← paced.settled none]
      exact congrArg List.getLast? (List.append_nil _)
  | taken held =>
      rw [paced.newest _ held]
      exact List.getLast?_concat ..
  | refused => exact nomatch succeeds

end Acknowledger

/-- An acknowledger that acknowledges by itself and up to a message, its calls, and the flush before
its consumer is closed. -/
structure Throttle where
  splitId : String
  type : SubscriptionType
  commitInterval : Duration
  made : Instant
  calls : List Acknowledger.Call
  current : Acknowledger
  consumer : ConsumerId
  flushed : Transcript
  final : Acknowledger
  outcome : Except Failure Unit
  ordered : type.isOrdered = true
  runs : Runs Acknowledger.Step (.new splitId type true commitInterval made) calls current
  flushes : (current.flush consumer).Yields flushed (final, outcome)

namespace Throttle

open Acknowledger

variable (s : Throttle)

/-- Only ever the newest message is acknowledged; before the flush not too soon after the last
acknowledgement that was taken, or the start; and after a flush that succeeds nothing is left to
acknowledge. -/
theorem commits :
    (∀ before call after, s.calls = before ++ call :: after →
      call.asked.AcknowledgesOnly (consumed (before ++ [call])).getLast?) ∧
    s.flushed.AcknowledgesOnly (consumed s.calls).getLast? ∧
    (asked s.calls).Spaced s.made s.commitInterval ∧
    (s.outcome = .ok () →
      (asked s.calls ++ s.flushed).acknowledged.getLast? = (consumed s.calls).getLast?) := by
  have paced := paced_of_run s.ordered s.runs
  have commit := commit_spec paced.throttles.cumulative s.flushes
  refine ⟨?_, commit.acknowledgesOnly paced.newest, paced.spaced, ?_⟩
  · intro before call after whole
    have run := s.runs
    rw [whole] at run
    obtain ⟨a, a', earlier, step⟩ := run.step_at
    have hold := step.hold (paced_of_run s.ordered earlier).throttles
    simpa [consumed] using hold.acknowledgesOnly (consumed before)
  · exact commit.settles paced

end Throttle

namespace Sample

/-- So many nanoseconds after the origin of the clock. -/
def tick (n : Fin 16) : Instant := ⟨n, Nat.le_trans (Nat.le_of_lt n.isLt) (by decide)⟩

/-- A message that is consumed at a time, with what else is asked. -/
def consumesAt (now : Instant) (entry : Int64) (asked : Transcript)
    (outcome : Except Failure Unit) : Acknowledger.Call :=
  .consume (message entry).id (⟨.time, now⟩ :: asked) outcome

/-- There are five nanoseconds between acknowledgements. One is taken, one refused, and the flush
makes up for it. -/
def throttled : Throttle where
  splitId := "s"
  type := .exclusive
  commitInterval := ⟨5, by decide⟩
  made := .zero
  calls := [
    consumesAt (tick 5) 0 [acknowledgesUpTo 0 (.ok ()), ⟨.time, tick 5⟩] (.ok ()),
    consumesAt (tick 9) 1 [] (.ok ()),
    consumesAt (tick 10) 2 [acknowledgesUpTo 2 (.error .interrupted)]
      (.error (.acknowledge "s" (message 2).id .interrupted))]
  current := _
  consumer := consumer
  flushed := [acknowledgesUpTo 2 (.ok ()), ⟨.time, tick 11⟩]
  final := _
  outcome := .ok ()
  ordered := rfl
  runs :=
    .cons (.consume consumer (.ask (.ask (.ask (.done _))))) <|
    .cons (.consume consumer (.ask (.done _))) <|
    .cons (.consume consumer (.ask (.ask (.done _)))) <| .nil _
  flushes := .ask (.ask (.done _))

/-- What is asked before the acknowledgement that is refused. -/
def waited : Transcript :=
  [⟨.time, tick 5⟩, acknowledgesUpTo 0 (.ok ())] ++
    [⟨.time, tick 5⟩, ⟨.time, tick 9⟩, ⟨.time, tick 10⟩]

theorem waited_committedAt : waited.CommittedAt .zero (tick 5) (tick 10) := by
  refine ⟨_, _, rfl, by simp [acknowledgesUpTo, Transcript.isTaken, Except.isOk, Except.toBool],
    ?_, ?_⟩
  · exact .cons (.after (by decide) rfl trivial) <|
      .cons (.after (by decide) trivial trivial) <| .nil _
  · exact .cons (.after (by decide) rfl trivial) <|
      .cons (.after (by decide) rfl trivial) <| .cons (.after (by decide) rfl trivial) <| .nil _

end Sample

open Sample in
theorem Throttle.commits_refused :
    waited.CommittedAt throttled.made (tick 5) (tick 10) ∧
      throttled.commitInterval ≤ (tick 10).since (tick 5) ∧
      throttled.outcome = .ok () ∧
      (Acknowledger.asked throttled.calls ++ throttled.flushed).acknowledged.getLast? =
        some (message 2).id := by
  obtain ⟨-, -, spaced, settled⟩ := throttled.commits
  refine ⟨waited_committedAt, ?_, rfl, settled rfl⟩
  exact spaced waited _ [] (tick 5) (tick 10) rfl rfl waited_committedAt

end TopicFeed
