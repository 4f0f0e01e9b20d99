import Mathlib.Data.List.Perm.Subperm
import TopicFeed.Proofs.Reader.Resume
/-! A restart of a split that starts at the end of its log. What is saved names the end, not the
place where it was, so whoever opens the split again before a message was handed over begins at the
end as it is by then. -/
namespace TopicFeed

namespace PartitionLog

/-- Where consumers of a log are led that are opened when some of its messages are written: to the
end, behind these, and from a message to the one that follows it. -/
structure Serves (log : PartitionLog) (written : Nat) (land : Position → Nat) : Prop where
  within : written ≤ log.messages.length
  latest : land .latest = written
  after : ∀ m ∈ log.messages, land (.after m.id) =
    log.messages.findIdx fun other => compare other.id m.id == .gt

theorem nodup (log : PartitionLog) : log.messages.Nodup := by
  refine log.ascends.imp ?_
  rintro earlier later less rfl
  exact MessageId.not_lt_self earlier.id less

/-- What follows one place of a log is what follows another only if the places are the same. -/
theorem eq_of_drop_subset {log : PartitionLog} {place later : Nat} (order : place ≤ later)
    (within : later ≤ log.messages.length)
    (subset : log.messages.drop place ⊆ log.messages.drop later) : later = place := by
  have counts := (log.nodup.sublist (List.drop_sublist ..)).subperm subset |>.length_le
  rw [List.length_drop, List.length_drop] at counts
  omega

end PartitionLog

namespace Session

variable {first second : Session} {log : PartitionLog} {land land' : Position → Nat}
  {written written' : Nat} {checkpoint : UInt64} {saved : Split}

/-- All that the consumer of a session has delivered, or is still to deliver. -/
def delivery (s : Session) (log : PartitionLog) (land : Position → Nat) : List Message :=
  log.messages.drop (land s.opened.split.seekPosition)

/-- Once a message was handed over, a restart takes nothing from what there is to deliver. -/
theorem delivery_eq_append (succeeds : first.Succeeds) (delivered : first.DeliveredFrom log land)
    (serves : log.Serves written' land')
    (snapshot : (first.reader.snapshot checkpoint).2 = some saved) (same : second.split = saved)
    (begun : emittedIn first.calls ≠ []) :
    first.delivery log land = emittedIn first.calls ++ second.delivery log land' := by
  obtain ⟨_, _, emitted, _⟩ := saved_of_succeeds succeeds snapshot
  have received := delivered.received
  rw [← emitted] at received
  rw [delivery, delivery, reopens succeeds snapshot same]
  obtain ⟨before, m, whole⟩ := (List.eq_nil_or_concat' _).resolve_left begun
  rw [whole] at received ⊢
  have member : m ∈ log.messages := List.mem_of_mem_drop (received.subset (by simp))
  rw [Split.seekPosition_recordAll_concat, serves.after m member,
    PartitionLog.findIdx_of_received received, Nat.add_assoc, ← List.drop_drop]
  obtain ⟨rest, parts⟩ := received
  rw [← parts, ← List.length_singleton (a := m), ← List.length_append, List.drop_left]

theorem delivery_of_silent (succeeds : first.Succeeds)
    (snapshot : (first.reader.snapshot checkpoint).2 = some saved) (same : second.split = saved)
    (silent : emittedIn first.calls = []) :
    second.delivery log land' = log.messages.drop (land' first.opened.split.seekPosition) := by
  rw [delivery, reopens succeeds snapshot same, silent]
  rfl

/-- A split without an end can be saved at any time. -/
theorem exists_snapshot (checkpoint : UInt64) (succeeds : first.Succeeds)
    (endless : first.stopCursor = .never) :
    ∃ saved, (first.reader.snapshot checkpoint).2 = some saved := by
  have unfinished : first.reader.isFinished = false := by
    rw [isFinished_eq succeeds, endless]
    exact StopCursor.endsIn_eq_false.mpr fun _ _ => rfl
  apply Option.isSome_iff_exists.mp
  rw [first.snapshot_isSome, unfinished]
  rfl

/-- Of what follows the first opening, all is handed over or follows the second one exactly if a
message was handed over or both are at the same place. -/
theorem lossless_iff_of_reopened (succeeds : first.Succeeds)
    (delivered : first.DeliveredFrom log land) (serves' : log.Serves written' land')
    (snapshot : (first.reader.snapshot checkpoint).2 = some saved) (same : second.split = saved)
    (begins : land first.opened.split.seekPosition = written)
    (ends : land' first.opened.split.seekPosition = written') (grown : written ≤ written') :
    (∀ m ∈ log.messages.drop written,
        m ∈ emittedIn first.calls ∨ m ∈ second.delivery log land') ↔
      emittedIn first.calls ≠ [] ∨ written' = written := by
  by_cases silent : emittedIn first.calls = []
  · rw [delivery_of_silent succeeds snapshot same silent, ends, silent]
    constructor
    · intro lossless
      right
      apply PartitionLog.eq_of_drop_subset grown serves'.within
      intro m member
      exact (lossless m member).resolve_left List.not_mem_nil
    · rintro (begun | rfl)
      · exact absurd rfl begun
      · exact fun m member => .inr member
  · refine ⟨fun _ => .inl silent, fun _ m member => ?_⟩
    have whole := delivery_eq_append succeeds delivered serves' snapshot same silent
    rw [delivery, begins] at whole
    rw [whole] at member
    exact List.mem_append.mp member

variable (checkpoint) in
/-- A split that starts at the end of its log can be saved and opened again at any time. Of the
messages that were written since it was first opened, none is lost exactly if one was handed over
before, or if none was written before it was opened again. -/
theorem restart_lossless_iff {partition : Partition} (sized : partition.Sized)
    (fresh : first.split = .fresh partition StartCursor.latest.position .never)
    (succeeds : first.Succeeds) (delivered : first.DeliveredFrom log land)
    (serves : log.Serves written land) (serves' : log.Serves written' land')
    (grown : written ≤ written') :
    ∃ saved, (first.reader.snapshot checkpoint).2 = some saved ∧
      Checkpoint.decodeSplit (Checkpoint.encodeSplit saved) = .ok saved ∧
      (∀ context consumer now, ∃ opened,
        ((SplitReader.new context).changeSplits (.addition [saved])).Yields
          [⟨.subscribe (SplitReader.consumerOptions context saved.partition), .ok consumer⟩,
            ⟨.seek consumer saved.seekPosition, .ok ()⟩, ⟨.time, now⟩]
          (.reading context opened, .ok ())) ∧
      ∀ second : Session, second.split = saved →
        ((∀ m ∈ log.messages.drop written,
            m ∈ emittedIn first.calls ∨ m ∈ second.delivery log land') ↔
          emittedIn first.calls ≠ [] ∨ written' = written) := by
  have opened : first.opened.split = .fresh partition .latest .never := by
    rw [first.opening_opened.eq_of_settled (by rw [fresh]; rfl), fresh]
    rfl
  obtain ⟨saved, snapshot⟩ := exists_snapshot checkpoint succeeds (congrArg Split.stopCursor opened)
  have stands := (saved_of_succeeds succeeds snapshot).2.2.2
  rw [opened, Split.recordAll_eq] at stands
  refine ⟨saved, snapshot, ?_, ?_, fun second same => ?_⟩
  · apply Checkpoint.decodeSplit_encodeSplit
    rw [stands]
    exact sized
  · intro context consumer now
    subst stands
    exact SplitReader.opens_settled context consumer now rfl (.inr (.inr rfl))
  · have begins : land first.opened.split.seekPosition = written := by
      rw [opened]
      exact serves.latest
    have ends : land' first.opened.split.seekPosition = written' := by
      rw [opened]
      exact serves'.latest
    exact lossless_iff_of_reopened succeeds delivered serves' snapshot same begins ends grown

end Session

namespace Sample

/-- Where seeks lead in the log when some of it is written. -/
def landsAt (written : Nat) (position : Position) : Nat :=
  if position = .latest then written else lands position

/-- A split that starts at the end. -/
def newest : Split := .fresh (split .never).partition StartCursor.latest.position .never

/-- A reader to which nothing comes. -/
def idle : Session where
  context := context
  split := newest
  opening := opening newest
  opened := opened newest
  calls := [.fetch (fetching ++ receives .nothing) (.ok .empty)]
  reader := _
  opens := .ask (.ask (.ask (.done _)))
  runs := .cons (.fetch (.ask (.ask (.ask (.ask (.ask (.done _))))))) <| .nil _

def begun : Session where
  context := context
  split := newest
  opening := opening newest
  opened := opened newest
  calls := [
    .fetch (fetching ++ takes 0 (.ok ()) ++ receives .nothing)
      (.ok (.ofSplit (split .never).id [message 0]))]
  reader := _
  opens := .ask (.ask (.ask (.done _)))
  runs := .cons (.fetch (.ask (.ask (.ask (.ask (.ask (.ask (.ask (.ask (.ask (.done _))))))))))) <|
    .nil _

/-- A new reader that opens the split again. -/
def restarted (latestConsumed : Option MessageId) : Session where
  context := context
  split := { newest with latestConsumed }
  opening := opening { newest with latestConsumed }
  opened := opened { newest with latestConsumed }
  calls := []
  reader := _
  opens := .ask (.ask (.ask (.done _)))
  runs := .nil _

end Sample

namespace Session

/-- What a reader saves once it handed over a message leads a new reader to the next one. -/
theorem restart_lossless_begun :
    (Sample.begun.reader.snapshot 1).2 = some (Sample.restarted (Sample.message 0).id).split ∧
      ∀ m ∈ Sample.log.messages.drop 0, m ∈ emittedIn Sample.begun.calls ∨
        m ∈ (Sample.restarted (Sample.message 0).id).delivery Sample.log (Sample.landsAt 2) := by
  have serves : Sample.log.Serves 0 (Sample.landsAt 0) := ⟨by decide, rfl, by decide⟩
  have serves' : Sample.log.Serves 2 (Sample.landsAt 2) := ⟨by decide, rfl, by decide⟩
  have delivered : Sample.begun.DeliveredFrom Sample.log (Sample.landsAt 0) := by decide
  obtain ⟨saved, snapshot, _, _, restarts⟩ := restart_lossless_iff 1
    ⟨by decide, by decide⟩ rfl (by decide) delivered serves serves' (by decide)
  have same : (Sample.restarted (Sample.message 0).id).split = saved := Option.some.inj snapshot
  exact ⟨snapshot.trans (congrArg some same.symm), (restarts _ same).mpr (.inl (by decide))⟩

theorem not_restart_lossless_idle :
    Sample.idle.split = .fresh (Sample.split .never).partition StartCursor.latest.position .never ∧
      Sample.idle.Succeeds ∧ Sample.idle.DeliveredFrom Sample.log (Sample.landsAt 0) ∧
      Sample.log.Serves 0 (Sample.landsAt 0) ∧ Sample.log.Serves 1 (Sample.landsAt 1) ∧
      (Sample.idle.reader.snapshot 1).2 = some (Sample.restarted none).split ∧
      Checkpoint.decodeSplit (Checkpoint.encodeSplit (Sample.restarted none).split) =
        .ok (Sample.restarted none).split ∧
      ¬∀ m ∈ Sample.log.messages.drop 0, m ∈ emittedIn Sample.idle.calls ∨
        m ∈ (Sample.restarted none).delivery Sample.log (Sample.landsAt 1) := by
  refine ⟨rfl, by decide, by decide, ⟨by decide, rfl, by decide⟩, ⟨by decide, rfl, by decide⟩, rfl,
    ?_, by decide⟩
  exact Checkpoint.decodeSplit_encodeSplit ⟨by decide, by decide⟩

end Session
end TopicFeed
