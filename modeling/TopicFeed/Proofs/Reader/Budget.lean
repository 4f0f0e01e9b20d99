import TopicFeed.Proofs.Reader.Session
import TopicFeed.Proofs.Reader.Timing
/-! What a fetch may use up. Every round waits once, for no longer than is left of the time, and
there are no more rounds than messages that may be emitted. So a fetch comes to its end in time,
whatever the outside replies, unless the point in time at which it would be over cannot be told:
then it stops the program before the first round. -/
namespace TopicFeed

open Dialogue

section Outcomes

variable {ε α β : Type} {b : β}

theorem bind_eq_ok_iff {x : Except ε α} {f : α → Except ε β} :
    x >>= f = .ok b ↔ ∃ a, x = .ok a ∧ f a = .ok b := by
  cases x with
  | error cause => simp [bind, Except.bind]
  | ok a => simp [bind, Except.bind]

theorem guard_eq_ok_iff {c : Prop} [Decidable c] {cause : ε} {f : Unit → Except ε β} :
    (if c then throw cause >>= f else f ()) = .ok b ↔ ¬c ∧ f () = .ok b := by
  by_cases fails : c
  · simp [fails, bind, Except.bind, throw, throwThe, MonadExceptOf.throw]
  · simp [fails]

end Outcomes

/-- Accepted settings let a message be waited for. -/
theorem Configuration.ofSettings_waits {settings : Settings} {configuration : Configuration}
    (accepted : ofSettings settings = .ok configuration) :
    .zero < configuration.defaultFetchTime := by
  unfold ofSettings at accepted
  -- Four checks come before the times are read, the one on the times after that.
  obtain ⟨-, accepted⟩ := guard_eq_ok_iff.mp accepted
  obtain ⟨-, accepted⟩ := guard_eq_ok_iff.mp accepted
  obtain ⟨-, accepted⟩ := guard_eq_ok_iff.mp accepted
  obtain ⟨-, accepted⟩ := guard_eq_ok_iff.mp accepted
  obtain ⟨defaultFetchTime, -, accepted⟩ := bind_eq_ok_iff.mp accepted
  obtain ⟨maxFetchTime, -, accepted⟩ := bind_eq_ok_iff.mp accepted
  obtain ⟨passes, accepted⟩ := guard_eq_ok_iff.mp accepted
  obtain ⟨mode, -, same⟩ := bind_eq_ok_iff.mp accepted
  cases same
  simp only [Duration.isZero, Bool.or_eq_true, beq_iff_eq, not_or] at passes
  exact Nat.pos_of_ne_zero passes.1

@[simp] theorem Records.size_ofSplit (splitId : String) (messages : List Message) :
    (ofSplit splitId messages).size = messages.length := by
  rw [size, ofSplit_messages]

@[simp] theorem Records.size_markFinished (records : Records) (splitId : String) :
    (records.markFinished splitId).size = records.size := rfl

namespace Transcript

/-- Whenever a message is waited for, it is for some time, for no longer than the configuration has
it, and for no longer than is left of the time there was at the start. -/
def Clipped (configuration : Configuration) (left : Duration) (start : Instant)
    (t : Transcript) : Prop :=
  ∀ before consumer timeout receipt after now,
    t = before ++ ⟨.receive consumer timeout, receipt⟩ :: after →
    Lasts Question.Prompt start before now →
    .zero < timeout ∧ timeout ≤ configuration.defaultFetchTime ∧ timeout ≤ left - now.since start

namespace Clipped

variable {configuration : Configuration} {left : Duration} {start finish : Instant}
  {t u : Transcript}

theorem of_silent (silent : t.receipts = []) : t.Clipped configuration left start := by
  rintro before consumer timeout receipt after now rfl
  simp [receipts, Question.isReceive] at silent

theorem waiting {consumer : ConsumerId} {timeout : Duration} {receipt : Receipt}
    (positive : .zero < timeout) (short : timeout ≤ configuration.defaultFetchTime)
    (timely : timeout ≤ left) :
    Clipped configuration left start [⟨.receive consumer timeout, receipt⟩] := by
  intro before _ _ _ after now whole lasts
  cases before with
  | nil =>
      cases whole
      cases lasts
      rw [Instant.since_self]
      exact ⟨positive, short, timely⟩
  | cons e before => simp at whole

theorem of_append (clipped : (t ++ u).Clipped configuration left start) :
    t.Clipped configuration left start := by
  rintro before consumer timeout receipt after now rfl
  exact clipped before consumer timeout receipt (after ++ u) now (by simp)

theorem append (first : t.Clipped configuration left start)
    (second : ∀ now, t.Lasts Question.Prompt start now →
      u.Clipped configuration (left - now.since start) now) :
    (t ++ u).Clipped configuration left start := by
  intro before consumer timeout receipt after now whole lasts
  rcases List.append_eq_append_iff.mp whole with ⟨later, rfl, rest⟩ | ⟨later, rfl, rest⟩
  · obtain ⟨middle, whole, lasts⟩ := Runs.append_iff.mp lasts
    obtain ⟨positive, short, timely⟩ :=
      second middle whole later consumer timeout receipt after now rest lasts
    refine ⟨positive, short, ?_⟩
    have past := Lasts.le whole
    have onward := Lasts.le lasts
    simp only [Duration.le_def, Duration.nanoseconds_sub, Instant.nanoseconds_since,
      Instant.le_def] at *
    omega
  · cases later with
    | nil =>
        rw [List.append_nil] at second
        obtain ⟨positive, short, timely⟩ :=
          second now lasts [] consumer timeout receipt after now rest.symm (.nil now)
        rw [Instant.since_self] at timely
        exact ⟨positive, short, timely⟩
    | cons e later =>
        obtain ⟨rfl, -⟩ := List.cons.inj rest
        exact first before consumer timeout receipt later now rfl lasts

/-- Only waiting takes time, so all is over before no time is left. -/
theorem finish_le (clipped : t.Clipped configuration left start)
    (lasts : t.Lasts Question.Prompt start finish) : finish.since start ≤ left := by
  -- From the end: all before was in time, and the last wait, if it is one, was cut to what is left.
  induction t using List.reverseRecOn generalizing finish with
  | nil =>
      cases lasts
      rw [Instant.since_self]
      exact Nat.zero_le _
  | append_singleton t e ih =>
      obtain ⟨now, before, last⟩ := Runs.concat_iff.mp lasts
      have within := ih clipped.of_append before
      cases last with
      | @after q reply _ le _ paced =>
          cases q with
          | receive consumer timeout =>
              have bound := (clipped t consumer timeout reply [] now rfl before).2.2
              have waited : finish.since now ≤ timeout := paced
              have past := Lasts.le before
              simp only [Duration.le_def, Duration.nanoseconds_sub, Instant.nanoseconds_since,
                Instant.le_def] at *
              omega
          | _ =>
              rw [Instant.eq_of_since le paced]
              exact within

end Clipped
end Transcript

section Batches

variable {configuration : Configuration} {deadline start : Instant} {budget : Nat}
  {active active' : ActiveSplit} {emitted : List Message} {t : Transcript}
  {outcome : Except Failure Records}

theorem ActiveSplit.polled_clipped {now : Instant} {receipt : Receipt}
    (waits : .zero < configuration.defaultFetchTime) (early : ¬deadline ≤ now) :
    (active.polled now (min (deadline.since now) configuration.defaultFetchTime) receipt).Clipped
      configuration (deadline.since start) start := by
  have silent : Transcript.receipts [⟨.isWoken, false⟩, ⟨.time, now⟩] = [] := rfl
  apply (Transcript.Clipped.of_silent silent).append
  intro asked lasts
  obtain ⟨rfl, -⟩ := Transcript.Lasts.told (t := [⟨.isWoken, false⟩]) lasts
  rw [Instant.since_sub_since lasts.le]
  apply Transcript.Clipped.waiting
  · simp only [Duration.lt_def, Duration.nanoseconds_min, Duration.nanoseconds_zero,
      Instant.nanoseconds_since, Instant.le_def] at *
    omega
  · exact Nat.min_le_right ..
  · exact Nat.min_le_left ..

namespace Batch

theorem receipts_le (h : Batch configuration deadline budget active emitted t active' outcome) :
    t.receipts.length ≤ budget := by
  induction h with
  | full | woken | late => exact Nat.zero_le _
  | quiet | refused | beyond => exact Nat.succ_le_succ (Nat.zero_le _)
  | unacknowledged _ _ acked | last _ _ acked =>
      rw [Transcript.receipts_append, Acknowledger.afterConsume_receipts acked]
      exact Nat.succ_le_succ (Nat.zero_le _)
  | next _ _ acked _ ih =>
      rw [Transcript.receipts_append, Transcript.receipts_append,
        Acknowledger.afterConsume_receipts acked]
      exact Nat.succ_le_succ ih

theorem size_le (h : Batch configuration deadline budget active emitted t active' outcome) :
    ∀ records, outcome = .ok records → records.size ≤ emitted.length + budget := by
  induction h with
  | full | woken | late | quiet | beyond =>
      rintro _ ⟨⟩
      simp
  | refused | unacknowledged => nofun
  | last =>
      rintro _ ⟨⟩
      simp
  | next _ _ _ _ ih =>
      intro records same
      have bound := ih records same
      simp only [List.length_append, List.length_singleton] at bound
      omega

theorem clipped (waits : .zero < configuration.defaultFetchTime)
    (h : Batch configuration deadline budget active emitted t active' outcome) :
    t.Clipped configuration (deadline.since start) start := by
  induction h generalizing start with
  | full | woken | late => exact .of_silent rfl
  | quiet early | refused early | beyond early => exact ActiveSplit.polled_clipped waits early
  | unacknowledged early _ acked | last early _ acked =>
      exact (ActiveSplit.polled_clipped waits early).append fun _ _ =>
        .of_silent (Acknowledger.afterConsume_receipts acked)
  | next early _ acked _ ih =>
      apply Transcript.Clipped.append
      · exact (ActiveSplit.polled_clipped waits early).append fun _ _ =>
          .of_silent (Acknowledger.afterConsume_receipts acked)
      · intro now lasts
        rw [Instant.since_sub_since lasts.le]
        exact ih

end Batch
end Batches

namespace SplitReader

variable {settings : Settings} {r r' : SplitReader} {t : Transcript}
  {outcome : Except Failure Records}

/-- A reader that is not closed and has a split is reading it. -/
theorem eq_reading {active : ActiveSplit} (isOpen : r.closed = false)
    (has : r.active = some active) : r = reading r.context active := by
  cases r
  cases isOpen
  cases has
  rfl

/-- The reader has a split that goes on. -/
def isReading (r : SplitReader) : Bool := !r.closed && r.active.any fun active => !active.finished

/-- A fetch asks for nothing but the wake-up flag, or it is a batch that starts right away. -/
theorem fetch_cases (h : r.fetch.Yields t (r', outcome)) :
    r.isReading = false ∧ t.receipts = [] ∧ (∀ records, outcome = .ok records →
        records.size = 0) ∨
      ∃ active active' now deadline asked, t = [⟨.clearWake, ()⟩, ⟨.time, now⟩] ++ asked ∧
        now.after? r.context.configuration.maxFetchTime = some deadline ∧
        Batch r.context.configuration deadline r.context.configuration.maxFetchRecords active []
          asked active' outcome := by
  cases isOpen : r.closed with
  | true =>
      rw [fetch, if_pos isOpen] at h
      obtain ⟨rfl, same⟩ := yields_done.mp h
      cases same
      refine .inl ⟨by simp [isReading, isOpen], rfl, ?_⟩
      rintro _ ⟨⟩
  | false =>
      cases has : r.active with
      | none =>
          rw [fetch, if_neg (by simp [isOpen]), has] at h
          obtain ⟨reply, rest, rfl, next⟩ := yields_ask.mp h
          obtain ⟨rfl, same⟩ := yields_done.mp next
          cases same
          refine .inl ⟨by simp [isReading, has], rfl, ?_⟩
          rintro _ ⟨⟩
          rfl
      | some active =>
          rw [eq_reading isOpen has] at h
          obtain ⟨active', -, advance⟩ := step_advance (.fetch h)
          cases advance with
          | idle ended =>
              refine .inl ⟨by simp [isReading, has, ended], rfl, ?_⟩
              rintro _ ⟨⟩
              split <;> rfl
          | batch _ ahead batch => exact .inr ⟨active, active', _, _, _, rfl, ahead, batch⟩

/-- A fetch stops the program only before it waits for anything, and only if the reader has a split
that goes on and the deadline cannot be told. -/
theorem fetch_aborts (h : r.fetch.Aborts t) :
    r.isReading = true ∧ ∃ now, t = [⟨.clearWake, ()⟩, ⟨.time, now⟩] ∧
      now.after? r.context.configuration.maxFetchTime = none := by
  rw [fetch] at h
  split at h
  · exact (not_aborts_done h).elim
  next isOpen =>
  obtain ⟨_, t, rfl, next⟩ := h.replied (by decide)
  simp only [pure_bind] at next
  split at next
  · exact (not_aborts_done next).elim
  next active has =>
  split at next
  · exact (not_aborts_done next).elim
  next unfinished =>
  obtain ⟨now, t, rfl, timed⟩ := next.replied (by decide)
  simp only [pure_bind] at timed
  split at timed
  · next far =>
    refine ⟨by simp_all [isReading], now, ?_, far⟩
    cases timed with
    | here => rfl
    | @ask _ _ reply => cases reply
  · refine absurd timed (Meets.not_aborts
      (?_ : Meets (fun q => q.stays = true) (fun _ => True) _) Bool.false_ne_true)
    apply (fetchLoop_meets ..).bind
    intro _ _
    trivial

/-- A fetch that reads the clock does so before any time has passed. -/
theorem eq_start {start now finish : Instant} (asked : Transcript)
    (lasts : Transcript.Lasts Question.Prompt start
      ([⟨.clearWake, ()⟩, ⟨.time, now⟩] ++ asked) finish) : now = start := by
  obtain ⟨begun, first, -⟩ := Runs.append_iff.mp lasts
  obtain ⟨rfl, -⟩ := Transcript.Lasts.told (t := [⟨.clearWake, ()⟩]) first
  exact Transcript.Lasts.eq_of_silent first rfl

theorem fetch_size_le (h : r.fetch.Yields t (r', outcome)) (records : Records)
    (brought : outcome = .ok records) :
    records.size ≤ r.context.configuration.maxFetchRecords := by
  rcases fetch_cases h with ⟨-, -, empty⟩ | ⟨active, active', now, deadline, asked, rfl, -, batch⟩
  · rw [empty records brought]
    exact Nat.zero_le _
  · simpa using batch.size_le records brought

section Holds

variable {start : Instant} {fetched : Conversation (SplitReader × Except Failure Records)}

/-- Before a fetch stops the program it has not waited for anything. -/
theorem silent_of_stops (held : fetched.Holds Question.Prompt r.fetch start)
    (stopped : fetched.result = none) : fetched.transcript.receipts = [] := by
  obtain ⟨-, now, same, -⟩ := fetch_aborts (held.stops stopped)
  rw [same]
  rfl

theorem result_eq_none_iff (held : fetched.Holds Question.Prompt r.fetch start) :
    fetched.result = none ↔
      r.isReading = true ∧ start.after? r.context.configuration.maxFetchTime = none := by
  have lasts := held.lasts
  constructor
  · intro stopped
    obtain ⟨reads, now, same, far⟩ := fetch_aborts (held.stops stopped)
    rw [same] at lasts
    obtain rfl := eq_start [] lasts
    exact ⟨reads, far⟩
  · rintro ⟨reads, far⟩
    cases brought : fetched.result with
    | none => rfl
    | some result =>
        rcases fetch_cases (held.ends result brought) with
          ⟨idle, -⟩ | ⟨active, active', now, deadline, asked, same, ahead, -⟩
        · exact nomatch reads.symm.trans idle
        · rw [same] at lasts
          obtain rfl := eq_start asked lasts
          exact nomatch far.symm.trans ahead

theorem receipts_le (held : fetched.Holds Question.Prompt r.fetch start) :
    fetched.transcript.receipts.length ≤ r.context.configuration.maxFetchRecords := by
  cases brought : fetched.result with
  | none =>
      rw [silent_of_stops held brought]
      exact Nat.zero_le _
  | some result =>
      rcases fetch_cases (held.ends result brought) with
        ⟨-, silent, -⟩ | ⟨active, active', now, deadline, asked, same, -, batch⟩
      · rw [silent]
        exact Nat.zero_le _
      · rw [same]
        exact batch.receipts_le

theorem clipped (held : fetched.Holds Question.Prompt r.fetch start)
    (waits : .zero < r.context.configuration.defaultFetchTime) :
    fetched.transcript.Clipped r.context.configuration r.context.configuration.maxFetchTime
      start := by
  cases brought : fetched.result with
  | none => exact .of_silent (silent_of_stops held brought)
  | some result =>
      rcases fetch_cases (held.ends result brought) with
        ⟨-, silent, -⟩ | ⟨active, active', now, deadline, asked, same, ahead, batch⟩
      · exact .of_silent silent
      · have begun : Transcript.receipts [⟨.clearWake, ()⟩, ⟨.time, now⟩] = [] := rfl
        rw [same]
        apply (Transcript.Clipped.of_silent begun).append
        intro later lasts
        obtain rfl := eq_start [] lasts
        rw [← Instant.since_of_after? ahead, Instant.since_sub_since (Transcript.Lasts.le lasts)]
        exact batch.clipped waits

end Holds

/-- A fetch comes to an end. It stops the program exactly if the reader has a split that goes on and
the time it may take leads beyond all that can be told; else it ends with a result. It waits for a
message no more often than it may emit one, and no longer than settings and time allow; it emits no
more messages than it may, and is over in time. -/
theorem fetch_bounded
    (accepted : Configuration.ofSettings settings = .ok r.context.configuration)
    (script : Script Question.Prompt) (start : Instant) :
    let configuration := r.context.configuration
    let fetched := script.hold r.fetch start []
    (fetched.result = none ↔
        r.isReading = true ∧ start.after? configuration.maxFetchTime = none) ∧
      (∀ result, fetched.result = some result → r.fetch.Yields fetched.transcript result ∧
        ∀ records, result.2 = .ok records → records.size ≤ configuration.maxFetchRecords) ∧
      fetched.transcript.receipts.length ≤ configuration.maxFetchRecords ∧
      fetched.transcript.Clipped configuration configuration.maxFetchTime start ∧
      fetched.finish.since start ≤ configuration.maxFetchTime := by
  have held := script.hold_holds r.fetch start []
  have clipped := clipped held (Configuration.ofSettings_waits accepted)
  refine ⟨result_eq_none_iff held, ?_, receipts_le held, clipped, clipped.finish_le held.lasts⟩
  intro result brought
  have yields := held.ends result brought
  exact ⟨yields, fetch_size_le yields⟩

end SplitReader

namespace Sample

def settings : Settings where
  subscriptionName := "s"
  messageQueueCapacity := 1
  partitionDiscoveryInterval := 0
  autoAcknowledge := true
  transactionTimeout := 5000
  maxFetchRecords := 5
  verifyInitialOffsets := .ignore

/-- The point in time a span later, or the present one. -/
def afterWait (now : Instant) (d : Duration) : Instant := (now.after? d).getD now

theorem afterWait_spec (now : Instant) (d : Duration) :
    now ≤ afterWait now d ∧ (afterWait now d).since now ≤ d := by
  unfold afterWait
  cases reached : now.after? d with
  | none =>
      rw [Option.getD_none, Instant.since_self]
      exact ⟨Nat.le_refl _, Nat.zero_le _⟩
  | some u =>
      refine ⟨?_, Nat.le_of_eq (congrArg _ (Instant.since_of_after? reached))⟩
      rw [Option.getD_some, Instant.le_def, Instant.after?_eq_some_iff.mp reached]
      exact Nat.le_add_left ..

/-- No message ever comes. -/
def silence : Script Question.Prompt where
  replies now _
    | .admin (.metadata topic), _ => .error (.notFound topic)
    | .admin (.topics _), _ => .ok []
    | .admin (.lastMessageId topic), _ => .error (.notFound topic)
    | .subscribe _, _ => .ok consumer
    | .receive _ _, _ => .nothing
    | .acknowledge _ _, _ | .acknowledgeUpTo _ _, _ | .seek _ _, _ | .close _, _ => .ok ()
    | .time, _ => now
    | .isWoken, _ => false
    | .clearWake, _ => ()
    | .abort, answered => absurd rfl answered
  repliedAt now _
    | .receive _ timeout => afterWait now timeout
    | _ => now
  later now _ q := by
    cases q with
    | receive _ timeout => exact (afterWait_spec now timeout).1
    | _ => exact Nat.le_refl _
  tells _ _ q _ := by
    cases q <;> trivial
  paced now _ q := by
    cases q with
    | receive _ timeout => exact (afterWait_spec now timeout).2
    | _ => exact Instant.since_self now

def reader : SplitReader := .reading context (opened (split .never))

def silent : Conversation (SplitReader × Except Failure Records) :=
  silence.hold reader.fetch .zero []

/-- A fetch may take as long as can be said. -/
def patientSettings : Settings := { settings with maxFetchTime := "18446744073709551615s" }

def patientConfiguration : Configuration :=
  { configuration with maxFetchTime := .ofSeconds 18446744073709551615 }

def patientReader : SplitReader :=
  .reading ⟨patientConfiguration, false⟩ (opened (split .never))

end Sample

open Sample in
theorem SplitReader.fetch_bounded_silent :
    Configuration.ofSettings settings = .ok configuration ∧ silent.result.isSome = true ∧
      silent.transcript.receipts.length ≤ 5 ∧
      silent.transcript.Clipped configuration (.ofSeconds 10) .zero ∧
      (∀ result ∈ silent.result, ∀ records, result.2 = .ok records → records.size ≤ 5) ∧
      silent.finish = .ofMilliseconds 100 := by
  have accepted : Configuration.ofSettings settings = .ok configuration := by decide +kernel
  obtain ⟨-, results, rounds, clipped, -⟩ := @fetch_bounded settings reader accepted silence .zero
  exact ⟨accepted, rfl, rounds, clipped, fun result brought => (results result brought).2, rfl⟩

open Sample in
/-- The settings are accepted, and the first fetch of a new split stops the program. -/
theorem SplitReader.not_fetch_ends :
    Configuration.ofSettings patientSettings = .ok patientReader.context.configuration ∧
      (silence.hold patientReader.fetch .zero []).result = none :=
  ⟨by decide +kernel, rfl⟩

end TopicFeed
