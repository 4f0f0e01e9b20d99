import TopicFeed.Proofs.Reader.Session
/-! What a saved split can lose. A fetch that fails has consumed messages that it does not hand
over, and whatever is saved from then on stands behind them. -/
namespace TopicFeed

/-- The messages that a call consumed. A fetch that could not acknowledge a message did not consume
this one, but all before it. -/
def Call.consumed : Call → List Message
  | .fetch _ (.ok records) => records.messages
  | .fetch asked (.error (.acknowledge ..)) => asked.received.dropLast
  | .fetch asked (.error _) => asked.received
  | _ => []

def consumedIn (calls : List Call) : List Message := calls.flatMap Call.consumed

@[simp] theorem consumedIn_cons (call : Call) (calls : List Call) :
    consumedIn (call :: calls) = call.consumed ++ consumedIn calls := List.flatMap_cons ..

theorem consumedIn_append (calls later : List Call) :
    consumedIn (calls ++ later) = consumedIn calls ++ consumedIn later := List.flatMap_append

/-- What was consumed last, if anything was, is where the split stands. -/
theorem Split.recordAll_append_latestConsumed (s : Split) (messages : List Message)
    {later : List Message} (some : later ≠ []) :
    (s.recordAll (messages ++ later)).latestConsumed = (later.getLast some).id := by
  rw [recordAll_append, recordAll_eq, List.getLast?_eq_some_getLast some]
  rfl

/-- What a call consumes of what it receives. All that the stop cursor emits is handed over, or the
fetch fails and nothing is. -/
structure Consumption (cursor : StopCursor) (call : Call) : Prop where
  received : call.consumed ⊆ call.asked.received
  handed : call.Succeeds → call.records = call.consumed
  kept : ¬call.Succeeds → call.records = []
  complete : call.Succeeds → ∀ m ∈ call.asked.received, (cursor.judge m).emits = true →
    m ∈ call.consumed
  within : ¬call.Succeeds → ∀ m ∈ call.asked.received, (cursor.judge m).emits = true

theorem Consumption.of_silent {cursor : StopCursor} {call : Call}
    (silent : call.asked.received = []) (nothing : call.consumed = []) (empty : call.records = []) :
    Consumption cursor call := by
  refine ⟨?_, fun _ => empty.trans nothing.symm, fun _ => empty, ?_, ?_⟩
  · rw [nothing]
    exact List.nil_subset _
  · rw [silent]
    exact fun _ => List.forall_mem_nil _
  · rw [silent]
    exact fun _ => List.forall_mem_nil _

theorem Consumption.records_subset {cursor : StopCursor} {call : Call}
    (h : Consumption cursor call) : call.records ⊆ call.asked.received := by
  by_cases succeeds : call.Succeeds
  · rw [h.handed succeeds]
    exact h.received
  · rw [h.kept succeeds]
    exact List.nil_subset _

theorem ActiveSplit.Advance.consumption {context : ReaderContext} {active active' : ActiveSplit}
    {call : Call} (h : active.Advance context call active') :
    active'.split = active.split.recordAll call.consumed ∧
      Consumption active.split.stopCursor call := by
  cases h with
  | idle closed =>
      cases reported : active.finishReported <;> exact ⟨rfl, .of_silent rfl rfl rfl⟩
  | snapshot => exact ⟨rfl, .of_silent rfl rfl rfl⟩
  | complete completed =>
      have silent := Acknowledger.checkpointComplete_receipts completed
      exact ⟨rfl, .of_silent (Transcript.received_of_receipts silent) rfl rfl⟩
  | @batch now _ asked _ outcome _ _ batch =>
      obtain ⟨taken, rest, acknowledger, brought, all, exit⟩ := batch.exits
      have arrived : (Call.fetch (⟨.clearWake, ()⟩ :: ⟨.time, now⟩ :: asked) outcome).asked.received
        = taken ++ rest := brought
      have emitted : ∀ m ∈ taken, (active.split.stopCursor.judge m).emits = true := by
        intro m member
        rw [all m member]
        rfl
      cases exit with
      | paused =>
          rw [List.append_nil] at arrived
          refine ⟨?_, ?_, fun _ => rfl, fun fails => (fails rfl).elim, fun _ => ?_,
            fun fails => (fails rfl).elim⟩
          · simp [Call.consumed]
          · rw [arrived]
            simp [Call.consumed]
          · rw [arrived]
            intro m member _
            simpa [Call.consumed] using member
      | refused =>
          rw [List.append_nil] at arrived
          refine ⟨?_, fun _ member => member, nofun, fun _ => rfl, nofun, fun _ => ?_⟩
          · exact congrArg active.split.recordAll arrived.symm
          · rw [arrived]
            exact emitted
      | unacknowledged within =>
          rw [Split.recordAll_stopCursor] at within
          have consumed := congrArg List.dropLast arrived
          rw [List.dropLast_concat] at consumed
          refine ⟨?_, List.dropLast_subset _, nofun, fun _ => rfl, nofun, fun _ => ?_⟩
          · exact congrArg active.split.recordAll consumed.symm
          · rw [arrived]
            intro m member
            rcases List.mem_append.mp member with before | last
            · exact emitted m before
            · rw [List.mem_singleton.mp last]
              exact Verdict.emits_iff.mpr within
      | @beyond m terminates =>
          rw [Split.recordAll_stopCursor] at terminates
          refine ⟨by simp [Call.consumed, ActiveSplit.done], ?_, fun _ => rfl,
            fun fails => (fails rfl).elim, fun _ => ?_, fun fails => (fails rfl).elim⟩
          · rw [arrived]
            simp [Call.consumed]
          · rw [arrived]
            intro m member emits
            rcases List.mem_append.mp member with before | last
            · simpa [Call.consumed] using before
            · rw [List.mem_singleton.mp last] at emits
              exact absurd terminates (Verdict.emits_iff.mp emits)
      | @last m acknowledger stops =>
          refine ⟨?_, ?_, fun _ => rfl, fun fails => (fails rfl).elim, fun _ => ?_,
            fun fails => (fails rfl).elim⟩
          · simp [Call.consumed, ActiveSplit.done, ActiveSplit.consume, Split.recordAll_append]
            rfl
          · rw [arrived]
            simp [Call.consumed]
          · rw [arrived]
            intro m member _
            simpa [Call.consumed] using member

/-- What some calls consume, and that each of them does so as it should. -/
structure Ledger (active : ActiveSplit) (calls : List Call) (active' : ActiveSplit) : Prop where
  split : active'.split = active.split.recordAll (consumedIn calls)
  each : ∀ call ∈ calls, Consumption active.split.stopCursor call

theorem ledger_of_run {context : ReaderContext} {active active' : ActiveSplit} {calls : List Call}
    (run : Runs (ActiveSplit.Advance context) active calls active') :
    Ledger active calls active' := by
  induction run with
  | nil => exact ⟨rfl, List.forall_mem_nil _⟩
  | cons first _ ih =>
      obtain ⟨moved, here⟩ := first.consumption
      obtain ⟨split, each⟩ := ih
      rw [moved, Split.recordAll_stopCursor] at each
      refine ⟨?_, List.forall_mem_cons.mpr ⟨here, each⟩⟩
      rw [split, moved, consumedIn_cons, Split.recordAll_append]

theorem emittedIn_subset {cursor : StopCursor} {calls : List Call}
    (each : ∀ call ∈ calls, Consumption cursor call) : emittedIn calls ⊆ receivedIn calls := by
  intro m emitted
  obtain ⟨call, member, handed⟩ := List.mem_flatMap.mp emitted
  exact mem_receivedIn.mpr ⟨call, member, (each call member).records_subset handed⟩

theorem consumedIn_subset {cursor : StopCursor} {calls : List Call}
    (each : ∀ call ∈ calls, Consumption cursor call) : consumedIn calls ⊆ receivedIn calls := by
  intro m consumed
  obtain ⟨call, member, taken⟩ := List.mem_flatMap.mp consumed
  exact mem_receivedIn.mpr ⟨call, member, (each call member).received taken⟩

namespace Session

variable {s : Session} {checkpoint : UInt64} {saved : Split}

/-- All that a saved split stands behind was handed over: each message that was received, belongs to
the split and is not ahead of its last consumed message. -/
def Lossless (s : Session) (saved : Split) : Prop :=
  ∀ m ∈ receivedIn s.calls, (s.stopCursor.judge m).emits = true →
    (∃ latest ∈ saved.latestConsumed, (compare m.id latest).isLE = true) → m ∈ emittedIn s.calls

/-- The messages of a consumer that delivers them in ascending order. -/
def Ascends (s : Session) : Prop :=
  (receivedIn s.calls).Pairwise fun earlier later => compare earlier.id later.id = .lt

theorem saved_eq (snapshot : (s.reader.snapshot checkpoint).2 = some saved) :
    saved = s.opened.split.recordAll (consumedIn s.calls) ∧
      ∀ call ∈ s.calls, Consumption s.stopCursor call := by
  obtain ⟨current, here, run⟩ := s.advances
  obtain ⟨split, each⟩ := ledger_of_run run
  refine ⟨?_, each⟩
  rw [here] at snapshot
  simp only [SplitReader.snapshot, SplitReader.reading] at snapshot
  split at snapshot
  · cases snapshot
  · cases snapshot
    exact split

/-- Messages received in ascending order are received in one call only. -/
theorem not_received_elsewhere {before after : List Call} {call : Call} {m : Message}
    (ascends : (receivedIn (before ++ call :: after)).Pairwise fun earlier later =>
      compare earlier.id later.id = .lt)
    (member : m ∈ call.asked.received) : m ∉ receivedIn before ∧ m ∉ receivedIn after := by
  rw [receivedIn_append, receivedIn_cons] at ascends
  obtain ⟨_, inner, earlier⟩ := List.pairwise_append.mp ascends
  obtain ⟨_, _, later⟩ := List.pairwise_append.mp inner
  constructor
  · intro again
    have less := earlier m again m (List.mem_append_left _ member)
    exact absurd less (MessageId.not_lt_self m.id)
  · intro again
    have less := later m member m again
    exact absurd less (MessageId.not_lt_self m.id)

/-- Nothing that a failed fetch received is ever handed over. -/
theorem not_emitted_of_fails {cursor : StopCursor} {before after : List Call} {call : Call}
    {m : Message} (each : ∀ other ∈ before ++ call :: after, Consumption cursor other)
    (ascends : (receivedIn (before ++ call :: after)).Pairwise fun earlier later =>
      compare earlier.id later.id = .lt)
    (fails : ¬call.Succeeds) (arrived : m ∈ call.asked.received) :
    m ∉ emittedIn (before ++ call :: after) := by
  obtain ⟨earlier, here, later⟩ : (∀ other ∈ before, Consumption cursor other) ∧
      Consumption cursor call ∧ ∀ other ∈ after, Consumption cursor other := by
    rw [List.forall_mem_append, List.forall_mem_cons] at each
    exact each
  obtain ⟨notBefore, notAfter⟩ := not_received_elsewhere ascends arrived
  rw [emittedIn_append, emittedIn_cons, here.kept fails, List.nil_append]
  intro emitted
  rcases List.mem_append.mp emitted with early | late
  · exact notBefore (emittedIn_subset earlier early)
  · exact notAfter (emittedIn_subset later late)

/-- A fetch that failed after it had received something loses it, unless the saved split still
stands before all of that: nothing was consumed in this fetch, nor since. -/
theorem snapshot_lossless_iff (ascends : s.Ascends)
    (snapshot : (s.reader.snapshot checkpoint).2 = some saved) :
    s.Lossless saved ↔ ∀ before call after, s.calls = before ++ call :: after →
      ¬call.Succeeds → call.asked.received ≠ [] →
        consumedIn (call :: after) = [] ∧
          ∀ latest ∈ (s.opened.split.recordAll (consumedIn before)).latestConsumed,
            ∀ m ∈ call.asked.received, compare latest m.id = .lt := by
  obtain ⟨rfl, each⟩ := saved_eq snapshot
  constructor
  · intro lossless before call after whole fails received
    have fetched : call ∈ s.calls := whole ▸ List.mem_append_right _ List.mem_cons_self
    have here := each call fetched
    rw [Ascends, whole] at ascends
    -- What the failed fetch received is lost, so a saved split that loses nothing stands before it.
    have ahead : ∀ latest ∈ (s.opened.split.recordAll (consumedIn s.calls)).latestConsumed,
        ∀ m ∈ call.asked.received, compare latest m.id = .lt := by
      intro latest same m arrived
      by_contra behind
      have emitted := lossless m (mem_receivedIn.mpr ⟨call, fetched, arrived⟩)
        (here.within fails m arrived) ⟨latest, same, MessageId.isLE_of_not_lt behind⟩
      rw [whole] at emitted
      exact not_emitted_of_fails (whole ▸ each) ascends fails arrived emitted
    have nothing : consumedIn (call :: after) = [] := by
      by_contra some
      have last := List.getLast_mem some
      have stands := s.opened.split.recordAll_append_latestConsumed (consumedIn before) some
      rw [← consumedIn_append, ← whole] at stands
      have arrived := consumedIn_subset (fun other member => each other
        (whole ▸ List.mem_append_right _ member)) last
      rw [receivedIn_cons] at arrived
      rcases List.mem_append.mp arrived with now | later
      · exact MessageId.not_lt_self _ (ahead _ stands _ now)
      · obtain ⟨m, first⟩ := List.exists_mem_of_ne_nil _ received
        rw [receivedIn_append, receivedIn_cons] at ascends
        have order := (List.pairwise_append.mp (List.pairwise_append.mp ascends).2.1).2.2
        exact MessageId.not_lt_self _ (Std.TransCmp.lt_trans (order m first _ later)
          (ahead _ stands m first))
    rw [whole, consumedIn_append, nothing, List.append_nil] at ahead
    exact ⟨nothing, ahead⟩
  · intro harmless m member emits behind
    obtain ⟨call, among, arrived⟩ := mem_receivedIn.mp member
    have here := each call among
    by_cases succeeds : call.Succeeds
    · have handed : m ∈ call.records := by
        rw [here.handed succeeds]
        exact here.complete succeeds m arrived emits
      exact List.mem_flatMap.mpr ⟨call, among, handed⟩
    · obtain ⟨before, after, whole⟩ := List.append_of_mem among
      obtain ⟨nothing, ahead⟩ :=
        harmless before call after whole succeeds (List.ne_nil_of_mem arrived)
      obtain ⟨latest, same, le⟩ := behind
      rw [whole, consumedIn_append, nothing, List.append_nil] at same
      have lt := ahead latest same m arrived
      exact absurd lt (MessageId.not_lt_of_isLE le)

end Session

namespace Sample

/-- A batch that hands over a message, and one that cannot acknowledge the next. -/
def unacknowledged : Session where
  context := context
  split := split .never
  opening := opening (split .never)
  opened := opened (split .never)
  calls := [
    .fetch (fetching ++ takes 0 (.ok ()) ++ receives .nothing)
      (.ok (.ofSplit (split .never).id [message 0])),
    .fetch (fetching ++ takes 1 (.error (.broker "fenced")))
      (.error (.acknowledge (split .never).id (message 1).id (.broker "fenced")))]
  reader := _
  opens := .ask (.ask (.ask (.done _)))
  runs :=
    .cons (.fetch (.ask (.ask (.ask (.ask (.ask (.ask (.ask (.ask (.ask (.done _))))))))))) <|
    .cons (.fetch (.ask (.ask (.ask (.ask (.ask (.ask (.done _)))))))) <| .nil _

def refused : Session where
  context := context
  split := split .never
  opening := opening (split .never)
  opened := opened (split .never)
  calls := [
    .fetch (fetching ++ takes 0 (.ok ()) ++ receives (.failed (.broker "fenced")))
      (.error (.poll (split .never).id (.broker "fenced")))]
  reader := _
  opens := .ask (.ask (.ask (.done _)))
  runs := .cons (.fetch (.ask (.ask (.ask (.ask (.ask (.ask (.ask (.ask (.ask (.done _))))))))))) <|
    .nil _

end Sample

namespace Session

theorem snapshot_lossless_unacknowledged :
    Sample.unacknowledged.Ascends ∧
      (Sample.unacknowledged.reader.snapshot 1).2 =
        some ((Sample.split .never).recordConsumed (Sample.message 0).id) ∧
      Sample.unacknowledged.Lossless
        ((Sample.split .never).recordConsumed (Sample.message 0).id) := by
  have ascends : Sample.unacknowledged.Ascends :=
    .cons (List.forall_mem_singleton.mpr (by decide)) (List.pairwise_singleton ..)
  have snapshot : (Sample.unacknowledged.reader.snapshot 1).2 =
      some ((Sample.split .never).recordConsumed (Sample.message 0).id) := rfl
  refine ⟨ascends, snapshot, (snapshot_lossless_iff ascends snapshot).mpr ?_⟩
  intro before call after whole fails _
  rcases before with _ | ⟨first, _ | ⟨second, before⟩⟩
  · obtain ⟨rfl, _⟩ := List.cons.inj whole
    exact absurd rfl fails
  · obtain ⟨rfl, others⟩ := List.cons.inj whole
    obtain ⟨rfl, rfl⟩ := List.cons.inj others
    refine ⟨rfl, ?_⟩
    intro latest same m arrived
    obtain rfl := List.mem_singleton.mp arrived
    have stands : (Sample.message 0).id = latest := Option.some.inj same
    rw [← stands]
    decide
  · have longer := congrArg List.length whole
    simp [Sample.unacknowledged] at longer

theorem not_snapshot_lossless_refused :
    Sample.refused.Ascends ∧
      (Sample.refused.reader.snapshot 1).2 =
        some ((Sample.split .never).recordConsumed (Sample.message 0).id) ∧
      ¬Sample.refused.Lossless ((Sample.split .never).recordConsumed (Sample.message 0).id) := by
  refine ⟨List.pairwise_singleton .., rfl, fun lossless => ?_⟩
  have handed := lossless (Sample.message 0) List.mem_cons_self rfl ⟨_, rfl, rfl⟩
  exact nomatch handed

end Session
end TopicFeed
