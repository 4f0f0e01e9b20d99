import TopicFeed.Proofs.Reader.Custody
import TopicFeed.Proofs.Reader.Rotation
/-! Additions. The splits of a batch are opened one after the other, up to one that is known or
cannot be opened. Those before it stay, nothing of it is left, and those after it can be added
later. -/
namespace TopicFeed

open Dialogue

namespace SplitReader

/-! No split is such that it cannot be opened: there are replies with which each step succeeds. -/

variable (context : ReaderContext) (split : Split)

theorem opened_succeeds :
    ∃ t resolved, (Query.toExchange split.opened).Yields t (.ok resolved) := by
  rw [Split.opened]
  split
  · exact ⟨[⟨.admin (.lastMessageId split.partition.fullName), .ok .earliest⟩], _, .ask (.done _)⟩
  · exact ⟨[], split, .done _⟩

/-- A split does not start beyond the last message if it starts at this message. -/
theorem verifyStart_succeeds : ∃ t, (verifyStart context split).Yields t (.ok ()) := by
  rw [verifyStart]
  split
  · exact ⟨[], .done _⟩
  · next id inclusive start =>
    split
    · exact ⟨[], .done _⟩
    · next checked =>
      have concrete : id.isConcrete = true := by simp_all
      have last : ¬(context.configuration.verifyInitialOffsets = .failOnMismatch ∧
          !(id.isConcrete && (compare id id).isLE)) := by
        simp [concrete]
      refine ⟨[⟨.admin (.lastMessageId split.partition.fullName), .ok id⟩], .ask ?_⟩
      rw [pure_bind]
      dsimp only
      rw [if_neg last]
      exact .done _

theorem subscribe_succeeds : ∃ t active, (subscribe context split).Yields t (.ok active) :=
  ⟨[⟨.subscribe (consumerOptions context split.partition), .ok ⟨0⟩⟩,
    ⟨.seek ⟨0⟩ split.seekPosition, .ok ()⟩, ⟨.time, .zero⟩], _, .ask (.ask (.ask (.done _)))⟩

theorem changeSplits_succeeds : ∃ t active,
    ((new context).changeSplits (.addition [split])).Yields t (reading context active, .ok ()) := by
  obtain ⟨first, resolved, resolves⟩ := opened_succeeds split
  obtain ⟨second, verifies⟩ := verifyStart_succeeds context resolved
  obtain ⟨third, active, subscribes⟩ := subscribe_succeeds context resolved
  have opens : (openSplit context split).Yields (first ++ (second ++ third)) (.ok active) := by
    apply (yields_bind_append resolves).mpr
    exact (yields_bind_append verifies).mpr subscribes
  have whole : (new context).changeSplits (.addition [split]) =
      (openSplit context split).bind _ := rfl
  refine ⟨first ++ (second ++ third) ++ [], active, ?_⟩
  rw [whole]
  exact (yields_bind_append opens).mpr (.done _)

end SplitReader

namespace SourceReader

variable {r r' : SourceReader} {splits more : List Split} {asked later : Transcript}
  {outcome : Except Failure Unit} {failure : Failure}

/-- The split is held or has finished. -/
def Knows (r : SourceReader) (id : String) : Prop :=
  r.readers.contains id = true ∨ r.finished.contains id = true

theorem known_iff {id : String} :
    (r.readers.contains id || r.finished.contains id) = true ↔ r.Knows id := Bool.or_eq_true_iff

/-- No split among these is known, and none is there twice. -/
structure Fresh (r : SourceReader) (splits : List Split) : Prop where
  unknown : ∀ id ∈ splits.map Split.id, ¬r.Knows id
  apart : (splits.map Split.id).Nodup

theorem Fresh.append (knows : ∀ id, r'.Knows id ↔ r.Knows id ∨ id ∈ splits.map Split.id) :
    r.Fresh (splits ++ more) ↔ r.Fresh splits ∧ r'.Fresh more := by
  constructor
  · rintro ⟨unknown, apart⟩
    rw [List.map_append] at unknown apart
    obtain ⟨here, there, disjoint⟩ := List.nodup_append'.mp apart
    obtain ⟨first, second⟩ := List.forall_mem_append.mp unknown
    refine ⟨⟨first, here⟩, fun id member known => ?_, there⟩
    rcases (knows id).mp known with before | added
    · exact second id member before
    · exact disjoint added member
  · rintro ⟨⟨first, here⟩, ⟨second, there⟩⟩
    refine ⟨?_, ?_⟩
    · rw [List.map_append]
      refine List.forall_mem_append.mpr ⟨first, fun id member known => ?_⟩
      exact second id member ((knows id).mpr (.inl known))
    · rw [List.map_append]
      refine List.nodup_append'.mpr ⟨here, there, fun id added member => ?_⟩
      exact second id member ((knows id).mpr (.inr added))

/-- With some replies all of these splits are added. -/
def Accepts (r : SourceReader) (splits : List Split) : Prop :=
  ∃ asked r', (r.addSplits splits).Yields asked (r', .ok ())

/-! An addition is an intake, and every intake is an addition. -/

theorem Intake.yields (intake : Intake r splits asked r' outcome) :
    (r.addEach splits).Yields asked (r', outcome) := by
  induction intake with
  | ended => exact .done _
  | known known =>
      rw [addEach, if_pos known]
      exact .done _
  | @refused r split rest asked reader failure unknown opens =>
      rw [addEach, if_neg (Bool.eq_false_iff.mp unknown), ← List.append_nil asked]
      exact (yields_bind_append opens).mpr (.done _)
  | next unknown opens _ ih =>
      rw [addEach, if_neg (Bool.eq_false_iff.mp unknown)]
      exact (yields_bind_append opens).mpr ih

theorem addSplits_of_open (opened : r.closed = false) : r.addSplits splits = r.addEach splits := by
  rw [addSplits, if_neg (Bool.eq_false_iff.mp opened)]

/-- What becomes of more splits, unless one before them has failed. -/
def addMore (more : List Split) :
    SourceReader × Except Failure Unit → Exchange (SourceReader × Except Failure Unit)
  | (r, .ok ()) => r.addEach more
  | (r, .error failure) => .done (r, .error failure)

theorem addEach_append (r : SourceReader) (splits more : List Split) :
    r.addEach (splits ++ more) = (r.addEach splits).bind (addMore more) := by
  induction splits generalizing r with
  | nil => rfl
  | cons split rest ih =>
      rw [List.cons_append, addEach, addEach]
      split
      · rfl
      · rw [bind_assoc]
        congr 1
        funext result
        obtain ⟨reader, outcome⟩ := result
        cases outcome with
        | error failure => rfl
        | ok => exact ih _

/-- An intake that fails stops at one of the splits, and leaves the reader as it is before it. -/
theorem Intake.stops (intake : Intake r splits asked r' outcome)
    (fails : outcome = .error failure) :
    ∃ taken offending rest first last, splits = taken ++ offending :: rest ∧
      asked = first ++ last ∧ Intake r taken first r' (.ok ()) ∧
      Intake r' [offending] last r' (.error failure) := by
  induction intake with
  | ended => exact nomatch fails
  | known known =>
      cases fails
      exact ⟨[], _, _, [], [], rfl, rfl, .ended, .known known⟩
  | refused unknown opens =>
      cases fails
      exact ⟨[], _, _, [], _, rfl, rfl, .ended, .refused unknown opens⟩
  | next unknown opens _ ih =>
      obtain ⟨taken, offending, rest, first, last, rfl, rfl, taking, refusing⟩ := ih fails
      refine ⟨_ :: taken, offending, rest, _ ++ first, last, rfl, ?_, .next unknown opens taking,
        refusing⟩
      rw [List.append_assoc]

/-- The splits have been opened, each for the first time, and nothing else has changed. -/
structure Gains (r : SourceReader) (splits : List Split) (r' : SourceReader) : Prop where
  fresh : r.Fresh splits
  opened : ∃ opened : List ActiveSplit, splits.Forall₂
    (fun split active => ∃ asked, SplitReader.Opening r.context split asked active) opened ∧
      r'.held = r.held + ↑opened
  splitIds : ∀ id, id ∈ r'.splitIds ↔ id ∈ r.splitIds ∨ id ∈ splits.map Split.id
  kept : ∀ id reader, r.readers.get? id = some reader → r'.readers.get? id = some reader
  others : r' = { r with readers := r'.readers }

theorem Gains.knows (gains : r.Gains splits r') (id : String) :
    r'.Knows id ↔ r.Knows id ∨ id ∈ splits.map Split.id := by
  have held : r'.readers.contains id = true ↔
      r.readers.contains id = true ∨ id ∈ splits.map Split.id := by
    rw [← OrderedMap.mem_keys, ← OrderedMap.mem_keys]
    exact gains.splitIds id
  have finished : r'.finished = r.finished := by rw [gains.others]
  rw [Knows, Knows, held, finished, or_right_comm]

/-- What has been gained is known. -/
theorem Gains.eq_nil (gains : r.Gains splits r')
    (unknown : ∀ id ∈ splits.map Split.id, ¬r'.Knows id) : splits = [] := by
  cases splits with
  | nil => rfl
  | cons split rest =>
      have known := (gains.knows split.id).mpr (.inr List.mem_cons_self)
      exact absurd known (unknown _ List.mem_cons_self)

theorem knows_insert (r : SourceReader) (split : Split) (reader : SplitReader) (id : String) :
    Knows { r with readers := r.readers.insert split.id reader } id ↔
      r.Knows id ∨ id ∈ [split].map Split.id := by
  rw [Knows, Knows, OrderedMap.contains_insert, Bool.or_eq_true, beq_iff_eq, List.map_singleton,
    List.mem_singleton, or_assoc, or_comm]

theorem fresh_singleton {split : Split} (unknown : ¬r.Knows split.id) : r.Fresh [split] :=
  ⟨List.forall_mem_singleton.mpr unknown, List.nodup_singleton _⟩

theorem Intake.gains (intake : Intake r splits asked r' outcome) (succeeds : outcome = .ok ()) :
    r.Gains splits r' := by
  induction intake with
  | @ended r =>
      refine ⟨⟨List.forall_mem_nil _, List.nodup_nil⟩, ⟨[], .nil, ?_⟩, ?_, ?_, rfl⟩
      · exact (Multiset.add_zero _).symm
      · simp
      · exact fun _ _ found => found
  | known | refused => exact nomatch succeeds
  | @next r r' split rest asked opened later outcome unknown opens _ ih =>
      obtain ⟨fresh, ⟨actives, opening, held⟩, splitIds, kept, others⟩ := ih succeeds
      obtain ⟨_, same, first⟩ := SplitReader.changeSplits_opening opens
      cases same
      obtain ⟨absent, _⟩ := Bool.or_eq_false_iff.mp unknown
      have new : ¬r.Knows split.id := mt known_iff.mpr (Bool.eq_false_iff.mp unknown)
      refine ⟨?_, ⟨opened :: actives, .cons ⟨asked, first⟩ opening, ?_⟩, ?_, ?_, others⟩
      · exact (Fresh.append (knows_insert r split _)).mpr ⟨fresh_singleton new, fresh⟩
      · rw [held, SourceReader.held, activeIn_insert_new absent, ← Multiset.cons_coe,
          Multiset.add_cons, Multiset.cons_add, Multiset.cons_add]
        rfl
      · intro id
        rw [splitIds, SourceReader.splitIds, SourceReader.splitIds, OrderedMap.mem_keys,
          OrderedMap.mem_keys, OrderedMap.contains_insert, Bool.or_eq_true, beq_iff_eq,
          List.map_cons, List.mem_cons, or_assoc, or_left_comm]
      · intro id reader found
        apply kept
        rw [OrderedMap.get?_insert, if_neg, found]
        intro same
        rw [eq_of_beq same] at found
        exact new (.inl (r.readers.contains_of_get? _ found))

theorem exists_intake (fresh : r.Fresh splits) : ∃ asked r', Intake r splits asked r' (.ok ()) := by
  induction splits generalizing r with
  | nil => exact ⟨[], r, .ended⟩
  | cons split rest ih =>
      obtain ⟨asked, active, opens⟩ := SplitReader.changeSplits_succeeds r.context split
      have parts : r.Fresh ([split] ++ rest) ↔ _ :=
        Fresh.append (knows_insert r split (.reading r.context active))
      obtain ⟨⟨unknown, _⟩, later⟩ := parts.mp fresh
      obtain ⟨more, r', intake⟩ := ih later
      have new := mt known_iff.mp (unknown split.id List.mem_cons_self)
      exact ⟨asked ++ more, r', .next (Bool.eq_false_iff.mpr new) opens intake⟩

/-- Splits are added, by some broker, if none of them is known or there twice. -/
theorem accepts_iff (opened : r.closed = false) : r.Accepts splits ↔ r.Fresh splits := by
  rw [Accepts, addSplits_of_open opened]
  constructor
  · rintro ⟨asked, r', yields⟩
    exact ((addEach_intake yields).gains rfl).fresh
  · intro fresh
    obtain ⟨asked, r', intake⟩ := exists_intake fresh
    exact ⟨asked, r', intake.yields⟩

/-- After some splits have been added, more are added as if all had come together. -/
structure Resumes (r : SourceReader) (taken more : List Split) (first : Transcript)
    (r' : SourceReader) : Prop where
  yields : ∀ later result, (r'.addSplits more).Yields later result ↔
    (r.addSplits (taken ++ more)).Yields (first ++ later) result
  accepts : r'.Accepts more ↔ r.Accepts (taken ++ more)
  fresh : r'.Accepts more ↔ r.Fresh (taken ++ more)
  again : r'.Accepts (taken ++ more) → taken = []

theorem Intake.resumes {taken : List Split} (opened : r.closed = false)
    (intake : Intake r taken asked r' (.ok ())) (more : List Split) :
    r.Resumes taken more asked r' := by
  have gains := intake.gains rfl
  have still : r'.closed = false := by rw [gains.others, opened]
  have parts : r.Fresh (taken ++ more) ↔ r'.Fresh more := by
    rw [Fresh.append gains.knows, and_iff_right gains.fresh]
  refine ⟨?_, ?_, ?_, ?_⟩
  · intro later result
    rw [addSplits_of_open still, addSplits_of_open opened, addEach_append,
      yields_bind_append intake.yields]
    rfl
  · rw [accepts_iff still, accepts_iff opened, parts]
  · rw [accepts_iff still, parts]
  · intro accepts
    obtain ⟨unknown, _⟩ := (accepts_iff still).mp accepts
    rw [List.map_append] at unknown
    exact gains.eq_nil (List.forall_mem_append.mp unknown).1

theorem Intake.eq_iff (intake : Intake r splits asked r' (.ok ())) : r' = r ↔ splits = [] := by
  constructor
  · rintro rfl
    have gains := intake.gains rfl
    exact gains.eq_nil gains.fresh.unknown
  · rintro rfl
    cases intake
    rfl

theorem Intake.handles (intake : Intake r splits asked r' outcome) :
    Runs Transcript.Handles (consumers r.held) asked (consumers r'.held) := by
  obtain ⟨acts, runs, same, _⟩ := intake.acts
  rw [← same]
  exact Does.run_handles runs

end SourceReader

namespace Lifetime

/-- An addition that fails stops at one of the splits. Those before it have been opened, nothing of
it is left, and those after it can be added afterwards as if it had not been there. -/
theorem addition_stops (s : Lifetime) {splits : List Split} {asked : Transcript}
    {failure : Failure} {r' : SourceReader} (opened : s.reader.closed = false)
    (fails : (s.reader.addSplits splits).Yields asked (r', .error failure)) :
    ∃ taken offending rest first last, splits = taken ++ offending :: rest ∧
      asked = first ++ last ∧
      (s.reader.addSplits taken).Yields first (r', .ok ()) ∧
      (r'.addSplits [offending]).Yields last (r', .error failure) ∧
      s.reader.Gains taken r' ∧
      Runs Transcript.Handles 0 (s.transcript ++ asked) (SourceReader.consumers r'.held) ∧
      (r' = s.reader ↔ taken = []) ∧
      s.reader.Resumes taken rest first r' := by
  rw [SourceReader.addSplits_of_open opened] at fails
  have intake := SourceReader.addEach_intake fails
  obtain ⟨taken, offending, rest, first, last, whole, parts, taking, refusing⟩ := intake.stops rfl
  have gains := taking.gains rfl
  have still : r'.closed = false := by rw [gains.others, opened]
  refine ⟨taken, offending, rest, first, last, whole, parts, ?_, ?_, gains, ?_, taking.eq_iff,
    taking.resumes opened rest⟩
  · rw [SourceReader.addSplits_of_open opened]
    exact taking.yields
  · rw [SourceReader.addSplits_of_open still]
    exact refusing.yields
  · exact s.handles.append intake.handles

end Lifetime

namespace Sample

/-- Nothing has happened to the reader. -/
def created : Lifetime := ⟨0, deferring, [], .new 0 deferring, .nil _⟩

/-- One split is opened, and no consumer is made for the next one. -/
def opensOne : Transcript := opens short ⟨0⟩ ++
  [⟨.subscribe (SplitReader.consumerOptions deferring endless.partition), .error .interrupted⟩]

theorem created_stops : ∃ r', (created.reader.addSplits [short, endless, still]).Yields opensOne
    (r', .error (.createConsumer endless.partition.fullName .interrupted)) ∧
      r'.splitIds = [short.id] ∧ SourceReader.consumers r'.held = {⟨0⟩} ∧ r'.closed = false :=
  ⟨_, .ask (.ask (.ask (.ask (.done _)))), rfl, rfl, rfl⟩

end Sample

theorem Lifetime.addition_stops_created : ∃ r', (Sample.created.reader.addSplits
    [Sample.short, Sample.endless, Sample.still]).Yields Sample.opensOne
      (r', .error (.createConsumer Sample.endless.partition.fullName .interrupted)) ∧
    Sample.created.reader.Gains [Sample.short] r' ∧ r'.Accepts [Sample.still] := by
  obtain ⟨r', fails, ids, _⟩ := Sample.created_stops
  obtain ⟨taken, offending, rest, first, last, whole, _, _, _, gains, _, _, resumes⟩ :=
    Sample.created.addition_stops rfl fails
  have member (id : String) : id = Sample.short.id ↔ id ∈ taken.map Split.id := by
    have here := gains.splitIds id
    have none : Sample.created.reader.splitIds = [] := rfl
    rw [ids, none] at here
    simpa using here
  rcases taken with _ | ⟨split, _ | ⟨next, more⟩⟩
  · exact nomatch (member _).mp rfl
  · cases whole
    have fresh : Sample.created.reader.Fresh [Sample.short, Sample.still] :=
      ⟨fun _ _ => nofun, by decide⟩
    exact ⟨r', fails, gains, resumes.fresh.mpr fresh⟩
  · have second : Sample.endless = next := (List.cons.inj (List.cons.inj whole).2).1
    have same := (member next.id).mpr (.tail _ List.mem_cons_self)
    rw [← second] at same
    exact absurd same (by decide)

/-- The batch without the split for which no consumer could be made is refused afterwards. -/
theorem Lifetime.not_undone_created : ∃ r', (Sample.created.reader.addSplits
    [Sample.short, Sample.endless, Sample.still]).Yields Sample.opensOne
      (r', .error (.createConsumer Sample.endless.partition.fullName .interrupted)) ∧
    r'.splitIds ≠ Sample.created.reader.splitIds ∧
    SourceReader.consumers r'.held ≠ SourceReader.consumers Sample.created.reader.held ∧
    Sample.created.reader.Accepts [Sample.short, Sample.still] ∧
    ¬r'.Accepts [Sample.short, Sample.still] := by
  obtain ⟨r', fails, ids, consumers, opened⟩ := Sample.created_stops
  refine ⟨r', fails, ?_, ?_, ?_, ?_⟩
  · rw [ids]
    exact List.cons_ne_nil _ _
  · rw [consumers]
    exact Multiset.singleton_ne_zero _
  · exact (SourceReader.accepts_iff rfl).mpr ⟨fun _ _ => nofun, by decide⟩
  · intro accepts
    have held : Sample.short.id ∈ r'.splitIds := by
      rw [ids]
      exact List.mem_cons_self
    obtain ⟨unknown, _⟩ := (SourceReader.accepts_iff opened).mp accepts
    exact unknown _ List.mem_cons_self (.inl ((r'.readers.mem_keys _).mp held))

end TopicFeed
