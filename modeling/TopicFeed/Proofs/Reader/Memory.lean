import TopicFeed.Proofs.Reader.Source
/-! What a checkpoint of a reader remembers. A split that was added is saved, or its end has been
reported, unless it had nothing to read and was not fetched since: then it is finished already, and
neither saved nor reported. -/
namespace TopicFeed

open Dialogue

namespace SourceReader

/-- The splits that calls have added. -/
def addedIn (calls : List Call) : List String := calls.flatMap Call.gained

/-- The splits whose ends have been reported. -/
def reportedIn (calls : List Call) : List String := calls.flatMap Call.reported

/-- The splits that are held, and those that are not any more, after some calls. -/
structure Sound (calls : List Call) (r : SourceReader) : Prop where
  opened : r.closed = false
  held : Unreported r.readers
  finished : ∀ id, r.finished.contains id = true ↔ id ∈ reportedIn calls
  apart : ∀ id, r.readers.contains id = true → r.finished.contains id = false
  known : ∀ id ∈ addedIn calls, r.readers.contains id = true ∨ r.finished.contains id = true

variable {r r' : SourceReader} {calls : List Call} {call : Call}

theorem Sound.concat (sound : Sound calls r) (effect : Effect r call r') :
    Sound (calls ++ [call]) r' := by
  refine ⟨effect.closed.trans sound.opened, effect.held, ?_, ?_, ?_⟩
  · intro id
    rw [effect.finished, sound.finished]
    simp [reportedIn]
  · intro id known
    rw [← Bool.not_eq_true, effect.finished]
    rintro (before | reported)
    · rcases (effect.contains id).mp known with ⟨held, _⟩ | gained
      · exact nomatch (sound.apart id held).symm.trans before
      · exact nomatch (effect.fresh id gained).2.symm.trans before
    · rcases (effect.contains id).mp known with ⟨_, kept⟩ | gained
      · exact kept reported
      · exact nomatch (effect.fresh id gained).1.symm.trans (effect.reported id reported)
  · intro id added
    rw [addedIn, List.flatMap_append, List.flatMap_singleton] at added
    rw [effect.contains, effect.finished]
    rcases List.mem_append.mp added with before | gained
    · by_cases reported : id ∈ call.reported
      · exact .inr (.inr reported)
      · exact (sound.known id before).imp (fun held => .inl ⟨held, reported⟩) .inl
    · exact .inl (.inr gained)

theorem sound_of_run {id : UInt32} {context : ReaderContext}
    (run : Runs Step (.new id context) calls r) : Sound calls r := by
  apply run.traced
  · exact ⟨rfl, fun _ _ => nofun, fun _ => ⟨nofun, nofun⟩, fun _ _ => rfl, fun _ => nofun⟩
  · intro before call after r r' _ sound step
    exact sound.concat (step.effect sound.held)

/-- The reader holds a split with nothing to read. -/
def HoldsExhausted (r : SourceReader) (splitId : String) : Prop :=
  ∃ reader active, r.readers.get? splitId = some reader ∧ reader.active = some active ∧
    active.split.stopCursor.isExhausted = true

/-- All splits that are held are saved, but those with nothing to read. -/
theorem mem_snapshot (held : Unreported r.readers) {checkpoint : UInt64} {splitId : String} :
    splitId ∈ (r.snapshot checkpoint).2.map Split.id ↔
      r.readers.contains splitId = true ∧ ¬r.HoldsExhausted splitId := by
  simp only [snapshot, List.mem_map, List.mem_filterMap, OrderedMap.mem_values]
  constructor
  · rintro ⟨split, ⟨reader, ⟨id, found⟩, saved⟩, rfl⟩
    obtain ⟨context, active, rfl, rfl, finished, _⟩ := held id reader found
    rw [SplitReader.reading_snapshot] at saved
    split at saved
    · cases saved
    next unfinished =>
    cases saved
    refine ⟨r.readers.contains_of_get? _ found, ?_⟩
    rintro ⟨reader, active', again, here, exhausted⟩
    cases found.symm.trans again
    cases here
    exact unfinished (finished.trans exhausted)
  · rintro ⟨known, more⟩
    obtain ⟨reader, found⟩ := Option.isSome_iff_exists.mp known
    obtain ⟨context, active, rfl, rfl, finished, _⟩ := held splitId reader found
    refine ⟨active.split, ⟨_, ⟨_, found⟩, if_neg fun ended => more ?_⟩, rfl⟩
    exact ⟨_, active, found, rfl, finished.symm.trans ended⟩

end SourceReader

open SourceReader (Step Sound addedIn reportedIn)

/-- A reader of many splits, and the calls since it was made. -/
structure SourceSession where
  id : UInt32
  context : ReaderContext
  calls : List SourceReader.Call
  reader : SourceReader
  runs : Runs Step (.new id context) calls reader

namespace SourceSession

variable (s : SourceSession)

/-- A checkpoint taken now has the split, or its end was reported before. -/
def Remembers (checkpoint : UInt64) (splitId : String) : Prop :=
  splitId ∈ (s.reader.snapshot checkpoint).2.map Split.id ∨ splitId ∈ reportedIn s.calls

/-- All splits of an addition that succeeds are added. -/
theorem added_of_ok {splits : List Split} {gained : List String} {asked : Transcript}
    (member : .add splits gained asked (.ok ()) ∈ s.calls) :
    ∀ split ∈ splits, split.id ∈ addedIn s.calls := by
  intro split among
  obtain ⟨before, after, whole⟩ := List.append_of_mem member
  have run := s.runs
  rw [whole] at run
  obtain ⟨r, r', first, step⟩ := run.step_at
  cases step with
  | add h new =>
      have sound := SourceReader.sound_of_run first
      have addition := SourceReader.addSplits_addition sound.held h
      obtain ⟨unknown, found⟩ := addition.all rfl split among
      exact List.mem_flatMap.mpr ⟨_, member, (SourceReader.mem_gained new).mpr ⟨found, unknown⟩⟩

/-- A checkpoint forgets the splits that the reader holds with nothing to read, and no others. -/
theorem remembers_iff (checkpoint : UInt64) :
    (∀ splits gained asked, .add splits gained asked (.ok ()) ∈ s.calls →
      ∀ split ∈ splits, split.id ∈ addedIn s.calls) ∧
    ∀ id ∈ addedIn s.calls, (s.Remembers checkpoint id ↔ ¬s.reader.HoldsExhausted id) := by
  refine ⟨fun _ _ _ => s.added_of_ok, fun id added => ?_⟩
  have sound := SourceReader.sound_of_run s.runs
  rw [Remembers, SourceReader.mem_snapshot sound.held, ← sound.finished]
  constructor
  · rintro (⟨_, more⟩ | reported)
    · exact more
    · rintro ⟨reader, _, found, _⟩
      have held := s.reader.readers.contains_of_get? id found
      exact nomatch (sound.apart id held).symm.trans reported
  · exact fun more => (sound.known id added).imp_left fun held => ⟨held, more⟩

end SourceSession

namespace Sample

/-- A split up to the last message of a partition without messages. -/
def drained : Split :=
  .fresh ⟨"d", Partition.unpartitioned, [.full], .split⟩ .earliest (.latest none)

def draining : Transcript :=
  ⟨.admin (.lastMessageId drained.partition.fullName), .ok .earliest⟩ ::
    opening (drained.resolve .earliest)

/-- Two splits are added, and one of them reports its end with the first fetch. -/
def reported : SourceSession where
  id := 0
  context := context
  calls := [
    .add [split .never, drained] [drained.id, (split .never).id]
      (opening (split .never) ++ draining) (.ok ()),
    .fetch [⟨.clearWake, ()⟩, ⟨.time, .zero⟩, ⟨.close consumer, .ok ()⟩]
      (.ok (Records.empty.markFinished drained.id))]
  reader := _
  runs :=
    .cons (.add (.ask (.ask (.ask (.ask (.ask (.ask (.ask (.done _)))))))) (by decide)) <|
    .cons (.fetch (.ask (.ask (.ask (.done _))))) <| .nil _

/-- A split with nothing to read has been added and not been fetched. -/
def forgotten : SourceSession where
  id := 0
  context := context
  calls := [.add [drained] [drained.id] draining (.ok ())]
  reader := _
  runs := .cons (.add (.ask (.ask (.ask (.ask (.done _))))) (by decide)) <| .nil _

end Sample

namespace SourceSession

theorem remembers_iff_reported : Sample.drained.id ∈ addedIn Sample.reported.calls ∧
    (Sample.split .never).id ∈ addedIn Sample.reported.calls ∧
    Sample.reported.Remembers 1 Sample.drained.id ∧
    Sample.reported.Remembers 1 (Sample.split .never).id := by
  obtain ⟨all, exact⟩ := Sample.reported.remembers_iff 1
  have added := all _ _ _ List.mem_cons_self
  have first := added _ (List.mem_cons_of_mem _ List.mem_cons_self)
  have second := added _ List.mem_cons_self
  refine ⟨first, second, (exact _ first).mpr ?_, (exact _ second).mpr ?_⟩
  · rintro ⟨_, _, found, _⟩
    exact nomatch found
  · rintro ⟨_, _, found, here, more⟩
    cases found
    cases here
    exact nomatch more

theorem not_remembers_forgotten : Sample.drained.id ∈ addedIn Sample.forgotten.calls ∧
    ¬Sample.forgotten.Remembers 1 Sample.drained.id := by
  refine ⟨List.mem_cons_self, ?_⟩
  rintro (saved | reported)
  · exact nomatch saved
  · exact nomatch reported

end SourceSession
end TopicFeed
