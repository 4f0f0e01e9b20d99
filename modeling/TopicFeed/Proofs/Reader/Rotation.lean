import TopicFeed.Proofs.Collection
import TopicFeed.Proofs.Reader.Holdings
import TopicFeed.Proofs.Turns
/-! Rotation. A reader of many splits fetches from them in turn, by a counter that outlives the
splits. So of as many fetches as splits are held each is made from another split, whatever comes of
it, as long as no split comes or goes. -/
namespace TopicFeed

open Dialogue

namespace SourceReader

variable {r r' : SourceReader} {asked : Transcript} {splitId : String}

/-- What follows the fetch of a split: it is put away if it has finished, and put back if not. -/
def settle (r : SourceReader) (splitId : String) :
    SplitReader × Except Failure Records → Exchange (SourceReader × Except Failure Records)
  | (reader, .error failure) =>
    .done ({ r with readers := r.readers.insert splitId reader }, .error failure)
  | (reader, .ok records) =>
    if reader.isFinished then (r.retire splitId reader).bind fun r => .done (r, .ok records)
    else .done ({ r with readers := r.readers.insert splitId reader }, .ok records)

/-- A fetch of the reader is a fetch of one of its splits, after which it is another one's turn. -/
def FetchesFrom (r : SourceReader) (splitId : String) : Prop :=
  ∃ reader, r.readers.get? splitId = some reader ∧
    r.fetch = reader.fetch.bind ({ r with next := r.next + 1 }.settle splitId)

theorem fetchesFrom (opened : r.closed = false)
    (turn : r.splitIds[r.next.toNat % r.splitIds.length]? = some splitId) :
    r.FetchesFrom splitId := by
  have size : r.splitIds.length = r.readers.size := List.length_map _
  rw [size, splitIds, OrderedMap.keys, List.getElem?_map] at turn
  obtain ⟨⟨id, reader⟩, entry, same⟩ := Option.map_eq_some_iff.mp turn
  obtain rfl : id = splitId := same
  refine ⟨reader, (r.readers.get?_eq_some_iff id).mpr (List.mem_of_getElem? entry), ?_⟩
  rw [fetch, opened, entry]
  refine congrArg reader.fetch.bind (funext ?_)
  rintro ⟨reader', outcome⟩
  cases outcome <;> rfl

theorem settle_next {x : SplitReader × Except Failure Records} {outcome : Except Failure Records}
    (h : (r.settle splitId x).Yields asked (r', outcome)) : r'.next = r.next := by
  obtain ⟨reader, fetched⟩ := x
  cases fetched with
  | error failure =>
      obtain ⟨_, same⟩ := yields_done.mp h
      cases same
      rfl
  | ok records =>
      rw [settle] at h
      split at h
      · obtain ⟨put, _, _, _, retires, final⟩ := yields_bind.mp h
        obtain ⟨_, same⟩ := yields_done.mp final
        cases same
        cases retire_retirement retires <;> rfl
      · obtain ⟨_, same⟩ := yields_done.mp h
        cases same
        rfl

theorem FetchesFrom.next {outcome : Except Failure Records} (fetches : r.FetchesFrom splitId)
    (h : r.fetch.Yields asked (r', outcome)) : r'.next = r.next + 1 := by
  obtain ⟨reader, _, same⟩ := fetches
  rw [same] at h
  obtain ⟨_, _, _, _, _, settles⟩ := yields_bind.mp h
  exact settle_next settles

namespace Call

def isFetch : Call → Bool
  | fetch _ _ => true
  | add _ _ _ _ | snapshot _ _ | complete _ _ _ | noMoreSplits => false

/-- No split is gained, and none is reported finished. -/
def Steady (call : Call) : Prop := call.gained = [] ∧ call.reported = []

end Call

theorem Intake.next_eq {splits : List Split} {outcome : Except Failure Unit}
    (intake : Intake r splits asked r' outcome) : r'.next = r.next := by
  induction intake with
  | next _ _ _ ih => exact ih
  | _ => rfl

/-- Only fetches count. -/
theorem Step.next_eq {call : Call} (step : Step r call r') (other : call.isFetch = false) :
    r'.next = r.next := by
  cases step with
  | fetch => exact nomatch other
  | snapshot | noMoreSplits => rfl
  | complete h => cases checkpointComplete_completion h <;> rfl
  | add h =>
      rcases addSplits_intake h with ⟨_, _, rfl, _⟩ | ⟨_, intake⟩
      · rfl
      · exact intake.next_eq

theorem Turn.next_eq {outcome : Except Failure Records} (turn : Turn r asked outcome r') :
    r'.next = r.next ∨ r'.next = r.next + 1 := by
  cases turn with
  | closed | none => exact .inl rfl
  | failed | goesOn => exact .inr rfl
  | ends _ _ _ _ retirement => cases retirement <;> exact .inr rfl

theorem Occurs.next_le {event : Event} (occurs : Occurs r event r') :
    r'.next.toNat ≤ r.next.toNat + [event].countP Event.isFetch := by
  have still {n : Nat} (same : r'.next = r.next) : r'.next.toNat ≤ r.next.toNat + n := by
    rw [same]
    exact Nat.le_add_right _ n
  cases occurs with
  | close h =>
      apply still
      cases close_closing h <;> rfl
  | @call _ inner step =>
      cases other : inner.isFetch with
      | false => exact still (step.next_eq other)
      | true =>
          cases step with
          | fetch h =>
              rcases (fetch_turn h).next_eq with same | moved
              · exact still same
              · rw [moved, UInt64.toNat_add]
                exact Nat.mod_le _ _
          | _ => exact nomatch other

theorem next_le_of_run {id : UInt32} {context : ReaderContext} {events : List Event}
    (run : Runs Occurs (.new id context) events r) :
    r.next.toNat ≤ events.countP Event.isFetch := by
  apply run.traced (P := fun before r => r.next.toNat ≤ before.countP Event.isFetch)
  · exact Nat.le_refl 0
  · intro before event after r r' _ most occurs
    rw [List.countP_append]
    exact occurs.next_le.trans (Nat.add_le_add_right most _)

theorem Effect.splitIds_eq {call : Call} (effect : Effect r call r') (steady : call.Steady) :
    r'.splitIds = r.splitIds := by
  refine OrderedMap.keys_eq_of_contains fun id => Bool.eq_iff_iff.mpr ?_
  rw [effect.contains, steady.1, steady.2]
  simp

/-- A reader after calls that leave it with its splits. -/
structure Rotates (r : SourceReader) (before : List Call) (r' : SourceReader) : Prop where
  held : Unreported r'.readers
  closed : r'.closed = r.closed
  splitIds : r'.splitIds = r.splitIds
  next : r'.next.toNat = r.next.toNat + before.countP Call.isFetch

theorem Rotates.concat {before : List Call} {call : Call} {r'' : SourceReader}
    (rotates : Rotates r before r') (step : Step r' call r'') (steady : call.Steady)
    (opened : r.closed = false) (some : r.splitIds ≠ [])
    (few : r.next.toNat + (before ++ [call]).countP Call.isFetch < 2 ^ 64) :
    Rotates r (before ++ [call]) r'' := by
  have effect := step.effect rotates.held
  refine ⟨effect.held, effect.closed.trans rotates.closed,
    (effect.splitIds_eq steady).trans rotates.splitIds, ?_⟩
  rw [List.countP_append, List.countP_singleton] at few ⊢
  cases other : call.isFetch with
  | false =>
      rw [step.next_eq other, rotates.next]
      rfl
  | true =>
      rw [other, if_pos rfl] at few
      cases step with
      | fetch h =>
          have turn : r'.next.toNat % r'.splitIds.length < r'.splitIds.length :=
            Nat.mod_lt _ (List.length_pos_iff.mpr (rotates.splitIds ▸ some))
          have fetches := fetchesFrom (rotates.closed.trans opened) (List.getElem?_eq_getElem turn)
          have fits : r'.next.toNat + 1 < 2 ^ 64 := by
            rw [rotates.next]
            omega
          rw [fetches.next h, toNat_add_one fits, rotates.next]
          rfl
      | _ => exact nomatch other

/-- The fetches among the calls are made from these splits, one after the other. -/
def FetchesInOrder (r : SourceReader) (calls : List Call) (order : List String) : Prop :=
  ∀ before asked outcome after r', calls = before ++ .fetch asked outcome :: after →
    Runs Step r before r' →
      ∃ splitId, order[before.countP Call.isFetch]? = some splitId ∧ r'.FetchesFrom splitId

end SourceReader

open SourceReader (Event Rotates Step)

namespace Lifetime

theorem rotates (s : Lifetime) {calls before after : List SourceReader.Call} {r : SourceReader}
    (whole : calls = before ++ after) (opened : s.reader.closed = false)
    (some : s.reader.splitIds ≠ [])
    (few : s.events.countP Event.isFetch + calls.countP SourceReader.Call.isFetch < 2 ^ 64)
    (steady : ∀ call ∈ calls, call.Steady) (run : Runs Step s.reader before r) :
    Rotates s.reader before r := by
  have standing := SourceReader.standing_of_run s.runs
  have counted := SourceReader.next_le_of_run s.runs
  apply run.traced (P := Rotates s.reader)
  · exact ⟨standing.held, rfl, rfl, rfl⟩
  · intro earlier call later r r' split rotates step
    refine rotates.concat step (steady call (by rw [whole, split]; simp)) opened some ?_
    rw [whole, split, List.append_assoc, List.countP_append] at few
    rw [List.countP_append, List.countP_singleton]
    rw [List.cons_append, List.countP_cons] at few
    omega

/-- As many fetches as there are splits, while none comes or goes, are each made from another split,
in an order that only the reader before them decides. -/
theorem fetches_each (s : Lifetime) {calls : List SourceReader.Call}
    (few : s.events.countP Event.isFetch + s.reader.splitIds.length < 2 ^ 64)
    (round : calls.countP SourceReader.Call.isFetch = s.reader.splitIds.length)
    (steady : ∀ call ∈ calls, call.Steady) :
    ∃ order : List String, order.Perm s.reader.splitIds ∧ order.Nodup ∧
      s.reader.FetchesInOrder calls order := by
  have perm := inTurn_perm s.reader.splitIds s.reader.next.toNat
  refine ⟨_, perm, perm.nodup_iff.mpr s.reader.readers.nodup_keys, ?_⟩
  intro before asked outcome after r whole run
  have within : before.countP SourceReader.Call.isFetch < s.reader.splitIds.length := by
    rw [← round, whole, List.countP_append, List.countP_cons]
    exact Nat.lt_add_of_pos_right (Nat.succ_pos _)
  have some := List.length_pos_iff.mp (Nat.zero_lt_of_lt within)
  have opened : s.reader.closed = false := by
    by_contra closed
    have shut := (SourceReader.standing_of_run s.runs).shut (by simpa using closed)
    exact some (congrArg OrderedMap.keys shut.1)
  have rotates := s.rotates whole opened some (round ▸ few) steady run
  have turn : s.reader.splitIds[(s.reader.next.toNat + before.countP SourceReader.Call.isFetch) %
      s.reader.splitIds.length]? = _ :=
    List.getElem?_eq_getElem (Nat.mod_lt _ (List.length_pos_iff.mpr some))
  refine ⟨_, (getElem?_inTurn some within).trans turn, ?_⟩
  apply SourceReader.fetchesFrom (rotates.closed.trans opened)
  rw [rotates.splitIds, rotates.next]
  exact turn

end Lifetime

namespace Sample

def still : Split := .fresh ⟨"c", Partition.unpartitioned, [.full], .split⟩ .earliest .never

/-- Two splits are held, and the first one has been fetched from. -/
def rotating : Lifetime where
  id := 0
  context := deferring
  events := [
    .call (.add [endless, still] [endless.id, still.id] (opens endless ⟨0⟩ ++ opens still ⟨1⟩)
      (.ok ())),
    .call (.fetch (fetching ++ polls ⟨0⟩ (.message (message 0)) ++ polls ⟨0⟩ .nothing)
      (.ok (.ofSplit endless.id [message 0])))]
  reader := _
  runs :=
    .cons (.call (.add (.ask (.ask (.ask (.ask (.ask (.ask (.done _))))))) (by decide))) <|
    .cons (.call (.fetch (.ask (.ask (.ask (.ask (.ask (.ask (.ask (.ask (.done _))))))))))) <|
    .nil _

/-- The next two fetches. The first one fails, and a checkpoint is between them. -/
def fetches : List SourceReader.Call := [
  .fetch (fetching ++ polls ⟨1⟩ (.failed (.broker "fenced")))
    (.error (.poll still.id (.broker "fenced"))),
  .snapshot 1 [endless.recordConsumed (message 0).id, still],
  .fetch (fetching ++ polls ⟨0⟩ .nothing) (.ok (.ofSplit endless.id []))]

end Sample

theorem Lifetime.fetches_each_rotating :
    (∃ last, Runs Step Sample.rotating.reader Sample.fetches last) ∧
      ∃ order : List String, order.Perm [Sample.endless.id, Sample.still.id] ∧
        Sample.rotating.reader.FetchesInOrder Sample.fetches order := by
  constructor
  · refine ⟨_, .cons (.fetch (.ask (.ask (.ask (.ask (.ask (.done _))))))) <| .cons .snapshot <|
      .cons (.fetch (.ask (.ask (.ask (.ask (.ask (.done _))))))) <| .nil _⟩
  · have few : Sample.rotating.events.countP Event.isFetch +
        Sample.rotating.reader.splitIds.length < 2 ^ 64 := by
      decide +kernel
    have round : Sample.fetches.countP SourceReader.Call.isFetch =
        Sample.rotating.reader.splitIds.length := by
      decide +kernel
    have steady : ∀ call ∈ Sample.fetches, call.Steady := by
      refine List.forall_mem_cons.mpr ⟨⟨rfl, rfl⟩, List.forall_mem_cons.mpr ⟨⟨rfl, rfl⟩, ?_⟩⟩
      exact List.forall_mem_singleton.mpr ⟨rfl, rfl⟩
    obtain ⟨order, perm, _, fetches⟩ := Sample.rotating.fetches_each few round steady
    exact ⟨order, perm, fetches⟩

end TopicFeed
