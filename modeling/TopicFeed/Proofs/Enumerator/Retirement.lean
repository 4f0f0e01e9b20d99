import TopicFeed.Proofs.Enumerator.Restore
/-! Splits that have finished. An enumerator may be replaced, at any time, by one that is restored
from a checkpoint of its state; a finished split comes back only as that of a partition which nobody
knew when it was reported. -/
namespace TopicFeed

/-- A turn, or a restart where there is no event, and where it leads. -/
structure Moment where
  event : Option Event
  next : Coordinator

namespace Moment

/-- The splits that are handed out at a moment or wait after it. -/
def splits (m : Moment) : List Split :=
  m.event.elim [] Event.handed ++ m.next.enumerator.state.pending

def Shows (m : Moment) (id : String) : Prop := id ∈ m.splits.map Split.id

instance (m : Moment) (id : String) : Decidable (m.Shows id) :=
  inferInstanceAs (Decidable (id ∈ m.splits.map Split.id))

/-- A reader reports a split finished, and is heard. -/
def Reports (m : Moment) (id : String) : Prop :=
  ∃ event ids, m.event = some event ∧ event.operation = .finishSplits ids ∧
    event.result = some (.ok ()) ∧ id ∈ ids

end Moment

inductive Coordinator.Passage (c : Coordinator) : Moment → Coordinator → Prop
  | turn {event : Event} {next : Coordinator} :
      c.Step event next → Passage c ⟨some event, next⟩ next
  | restored (options : EnumeratorOptions) {state : EnumeratorState} :
      Checkpoint.decodeState (Checkpoint.encodeState c.enumerator.state) = .ok state →
      Passage c ⟨none, .ofState options state⟩ (.ofState options state)

/-- An enumerator made from a state and those restored after it, and what has happened to them. -/
structure Lineage where
  options : EnumeratorOptions
  state : EnumeratorState
  moments : List Moment
  current : Coordinator
  runs : Runs Coordinator.Passage (.ofState options state) moments current

namespace EnumeratorState

variable {s t u : EnumeratorState}

/-- Every partition of some id that is known to one state is known to another. -/
def Covers (s : EnumeratorState) (id : String) (t : EnumeratorState) : Prop :=
  ∀ p ∈ t.appended, p.toString = id → p ∈ s.appended

instance (s : EnumeratorState) (id : String) (t : EnumeratorState) : Decidable (s.Covers id t) :=
  inferInstanceAs (Decidable (∀ p ∈ t.appended.toList, p.toString = id → p ∈ s.appended.toList))

/-- A split has finished and does not wait. -/
structure Retired (id : String) (s : EnumeratorState) : Prop where
  finished : id ∈ s.finished
  gone : id ∉ s.pending.map Split.id

end EnumeratorState

theorem Enumerator.finishSplits_retired {e e' : Enumerator} {ids : List String} {id : String}
    (ended : e.finishSplits ids = .ok e') (listed : id ∈ ids) : e'.state.Retired id := by
  rw [finishSplits_eq ended]
  refine ⟨OrderedSet.mem_foldl_insert.mpr (.inl listed), ?_⟩
  intro waits
  obtain ⟨split, member, rfl⟩ := List.mem_map.mp waits
  have unlisted := (List.mem_filter.mp member).2
  rw [List.contains_iff_mem.mpr listed] at unlisted
  exact nomatch unlisted

namespace Enumerator.Flow

variable {e e' : Enumerator} {operation : Operation} {handed fresh : List Split} {id : String}

/-- A split that has retired comes out of a turn only as a fresh one. -/
theorem shows_iff (flow : e.Flow operation handed fresh e') (retired : e.state.Retired id) :
    id ∈ (handed ++ e'.state.pending).map Split.id ↔ id ∈ fresh.map Split.id := by
  have new : ∀ split ∈ e.state.pending ++ fresh, split.id = id → split ∈ fresh := by
    intro split member same
    rcases List.mem_append.mp member with old | new
    · exact absurd (List.mem_map.mpr ⟨split, old, same⟩) retired.gone
    · exact new
  constructor
  · intro shown
    obtain ⟨split, member, same⟩ := List.mem_map.mp shown
    refine List.mem_map.mpr ⟨split, ?_, same⟩
    rcases List.mem_append.mp member with out | waiting
    · exact new split (flow.leaves split out) same
    · rcases flow.waits split waiting with known | ⟨_, unfinished⟩
      · exact new split known same
      · exact absurd (same ▸ retired.finished) unfinished
  · intro discovered
    obtain ⟨split, member, same⟩ := List.mem_map.mp discovered
    exact List.mem_map.mpr ⟨split, flow.queued split member, same⟩

/-- The ids of the fresh splits are those of the partitions that become known. -/
theorem covers_iff (flow : e.Flow operation handed fresh e') :
    e.state.Covers id e'.state ↔ id ∉ fresh.map Split.id := by
  constructor
  · intro covers discovered
    obtain ⟨split, member, same⟩ := List.mem_map.mp discovered
    have known := (flow.grown.known split.partition).mpr (.inl (List.mem_map_of_mem member))
    exact flow.grown.unknown split member (covers _ known same)
  · intro none p known same
    rcases (flow.grown.known p).mp known with discovered | old
    · obtain ⟨split, member, rfl⟩ := List.mem_map.mp discovered
      exact absurd (List.mem_map.mpr ⟨split, member, same⟩) none
    · exact old

end Enumerator.Flow

namespace Coordinator

variable {c d : Coordinator} {moment : Moment} {moments : List Moment} {id : String}

theorem Passage.next_eq (passage : c.Passage moment d) : moment.next = d := by
  cases passage with
  | turn => rfl
  | restored => rfl

theorem Passage.appended_subset (passage : c.Passage moment d) :
    ∀ p ∈ c.enumerator.state.appended, p ∈ d.enumerator.state.appended := by
  cases passage with
  | turn step =>
      cases step with
      | perform operation readers =>
          obtain ⟨fresh, flow⟩ := (c.perform_change readers operation).flow
          exact fun p known => (flow.grown.known p).mpr (.inr known)
  | restored _ read =>
      rw [Checkpoint.eq_of_decodeState read]
      exact fun _ known => known

/-- A retired split stays retired, as long as no other partition of its id becomes known. -/
theorem Passage.retired (passage : c.Passage moment d) (retired : c.enumerator.state.Retired id) :
    (¬moment.Shows id ↔ c.enumerator.state.Covers id d.enumerator.state) ∧
      (¬moment.Shows id → d.enumerator.state.Retired id) := by
  cases passage with
  | turn step =>
      cases step with
      | perform operation readers =>
          obtain ⟨fresh, flow⟩ := (c.perform_change readers operation).flow
          refine ⟨(not_congr (flow.shows_iff retired)).trans flow.covers_iff.symm, ?_⟩
          intro hidden
          refine ⟨flow.finished id retired.finished, fun waits => hidden ?_⟩
          rw [Moment.Shows, Moment.splits, List.map_append]
          exact List.mem_append_right _ waits
  | restored _ read =>
      cases Checkpoint.eq_of_decodeState read
      exact ⟨iff_of_true retired.gone fun _ known _ => known, fun _ => retired⟩

theorem appended_subset (runs : Runs Passage c moments d) :
    ∀ p ∈ c.enumerator.state.appended, p ∈ d.enumerator.state.appended := by
  induction runs with
  | nil => exact fun _ known => known
  | cons first _ ih => exact fun p known => ih p (first.appended_subset p known)

/-- A split that has retired is not seen again, unless another partition of its id becomes known. -/
theorem hidden_iff (runs : Runs Passage c moments d) (retired : c.enumerator.state.Retired id) :
    (∀ moment ∈ moments, ¬moment.Shows id) ↔
      c.enumerator.state.Covers id d.enumerator.state := by
  induction runs with
  | nil => exact iff_of_true (List.forall_mem_nil _) fun _ known _ => known
  | @cons c middle last moment rest first later ih =>
      obtain ⟨hidden, kept⟩ := first.retired retired
      rw [List.forall_mem_cons]
      constructor
      · rintro ⟨now, after⟩ p known same
        exact hidden.mp now p ((ih (kept now)).mp after p known same) same
      · intro covers
        -- what is known only grows, so what is covered in the end was covered at every moment
        have now : ¬moment.Shows id :=
          hidden.mpr fun p known => covers p (appended_subset later p known)
        refine ⟨now, (ih (kept now)).mpr fun p known same => ?_⟩
        exact first.appended_subset p (covers p known same)

/-- A reader that is heard retires the splits it reports. -/
theorem Passage.retires (passage : c.Passage moment d) (reports : moment.Reports id) :
    d.enumerator.state.Retired id ∧ ¬moment.Shows id := by
  obtain ⟨event, ids, told, operation, accepted, listed⟩ := reports
  cases passage with
  | restored => exact nomatch told
  | turn step =>
      cases told
      cases step with
      | perform operation readers =>
          dsimp only at operation accepted
          subst operation
          cases ended : c.enumerator.finishSplits ids with
          | error failure =>
              rw [perform_finishSplits_refused _ ended] at accepted
              cases accepted
          | ok e =>
              have retired := Enumerator.finishSplits_retired ended listed
              rw [perform_finishSplits _ ended]
              exact ⟨retired, retired.gone⟩

end Coordinator

namespace Lineage

/-- From its report on a split is neither handed out nor waits, exactly if no partition of its id
becomes known after the report. -/
theorem retired_iff (l : Lineage) {before after : List Moment} {report : Moment} {id : String}
    (whole : l.moments = before ++ report :: after) (reports : report.Reports id) :
    (∀ moment ∈ report :: after, ¬moment.Shows id) ↔
      report.next.enumerator.state.Covers id l.current.enumerator.state := by
  have runs := l.runs
  rw [whole] at runs
  obtain ⟨c, _, rest⟩ := Runs.append_iff.mp runs
  cases rest with
  | cons first later =>
      obtain ⟨retired, hidden⟩ := first.retires reports
      rw [List.forall_mem_cons, Coordinator.hidden_iff later retired, first.next_eq]
      exact and_iff_right hidden

end Lineage

namespace Sample

/-- One of two splits is reported finished and returned all the same, before a restart. -/
def returned : Lineage where
  options := unbounded
  state := .empty
  moments := _
  current := _
  runs :=
    .cons (.turn (.perform (.start 1) (.ofList [0]))) <|
    .cons (.turn (.perform (.discovery 0 broker) (.ofList [0]))) <|
    .cons (.turn (.perform (.discovery 0 broker) (.ofList [0]))) <|
    .cons (.turn (.perform (.discovery 0 broker) (.ofList [0]))) <|
    .cons (.turn (.perform (.discovery 0 broker) (.ofList [0]))) <|
    .cons (.turn (.perform (.discovery 0 broker) (.ofList [0]))) <|
    .cons (.turn (.perform (.finishSplits [(dealt 0).id]) (.ofList [0]))) <|
    .cons (.turn (.perform (.addSplitsBack [dealt 0, dealt 1] 0) ∅)) <|
    .cons (.restored unbounded (Checkpoint.decodeState_encodeState (by decide +kernel))) <|
    .cons (.turn (.perform (.start 1) (.ofList [7]))) <|
    .cons (.turn (.perform (.discovery 0 broker) (.ofList [7]))) <|
    .cons (.turn (.perform (.discovery 0 broker) (.ofList [7]))) <|
    .cons (.turn (.perform (.discovery 0 broker) (.ofList [7]))) <| .nil _

/-- A split is reported finished before its partition is discovered. -/
def premature : Lineage where
  options := unbounded
  state := .empty
  moments := _
  current := _
  runs :=
    .cons (.turn (.perform (.finishSplits [(dealt 0).id]) ∅)) <|
    .cons (.turn (.perform (.start 1) (.ofList [0]))) <|
    .cons (.turn (.perform (.discovery 0 broker) (.ofList [0]))) <|
    .cons (.turn (.perform (.discovery 0 broker) (.ofList [0]))) <|
    .cons (.turn (.perform (.discovery 0 broker) (.ofList [0]))) <|
    .cons (.turn (.perform (.discovery 0 broker) (.ofList [0]))) <|
    .cons (.turn (.perform (.discovery 0 broker) (.ofList [0]))) <| .nil _

end Sample

namespace Lineage

theorem retired_iff_returned : ∃ before report after,
    Sample.returned.moments = before ++ report :: after ∧ report.Reports (Sample.dealt 0).id ∧
      (∃ moment ∈ after, moment.Shows (Sample.dealt 1).id) ∧
      ∀ moment ∈ report :: after, ¬moment.Shows (Sample.dealt 0).id := by
  have whole : Sample.returned.moments =
      Sample.returned.moments.take 6 ++ _ :: Sample.returned.moments.drop 7 := rfl
  refine ⟨_, _, _, whole, ?heard, ?_, (Sample.returned.retired_iff whole ?heard).mpr ?_⟩
  case heard => exact ⟨_, _, rfl, rfl, rfl, List.mem_cons_self⟩
  · decide +kernel
  · decide +kernel

theorem not_retired_premature : ∃ report after, Sample.premature.moments = report :: after ∧
    report.Reports (Sample.dealt 0).id ∧ ∃ moment ∈ after, moment.Shows (Sample.dealt 0).id := by
  refine ⟨_, Sample.premature.moments.drop 1, rfl, ⟨_, _, rfl, rfl, rfl, List.mem_cons_self⟩, ?_⟩
  decide +kernel

end Lineage
end TopicFeed
