import Mathlib.Data.List.Nodup
import TopicFeed.Proofs.Enumerator.Coordinator
import TopicFeed.Proofs.Sample
/-! Where the splits are. Each known partition has its split at one place: it waits, a reader has
it, or it has finished. -/
namespace TopicFeed

namespace EnumeratorState

/-- The id is that of the split of a known partition. -/
def Knows (s : EnumeratorState) (id : String) : Prop := ∃ p ∈ s.appended, p.toString = id

def Distinct (s : EnumeratorState) : Prop :=
  ∀ p ∈ s.appended, ∀ q ∈ s.appended, p.toString = q.toString → p = q

instance (s : EnumeratorState) : Decidable s.Distinct :=
  inferInstanceAs (Decidable (∀ p ∈ s.appended.toList, ∀ q ∈ s.appended.toList,
    p.toString = q.toString → p = q))

variable {s t : EnumeratorState}

theorem Knows.mono {id : String} (grown : ∀ p ∈ s.appended, p ∈ t.appended) (known : s.Knows id) :
    t.Knows id := by
  obtain ⟨p, member, same⟩ := known
  exact ⟨p, grown p member, same⟩

theorem Distinct.mono (grown : ∀ p ∈ s.appended, p ∈ t.appended) (distinct : t.Distinct) :
    s.Distinct :=
  fun p hp q hq => distinct p (grown p hp) q (grown q hq)

theorem mem_add_appended {split : Split} {p : Partition} :
    p ∈ (s.add split).appended ↔ p = split.partition ∨ p ∈ s.appended := by
  rw [add]
  split
  · next known =>
    have member := OrderedSet.contains_iff.mp known
    constructor
    · exact .inr
    · rintro (rfl | old)
      · exact member
      · exact old
  · exact OrderedSet.mem_insert

theorem appended_foldl_add (splits : List Split) :
    ∀ p ∈ s.appended, p ∈ (splits.foldl add s).appended := by
  induction splits generalizing s with
  | nil => exact fun _ member => member
  | cons split rest ih =>
      intro p member
      exact ih p (mem_add_appended.mpr (.inr member))

end EnumeratorState

namespace Enumerator

/-- Each known partition has its split at exactly one place, where it waits only once; and there are
no other splits. -/
structure Accounted (e : Enumerator) : Prop where
  placed : ∀ p ∈ e.state.appended, ∃! place, e.Holds place p.toString
  once : (e.state.pending.map Split.id).Nodup
  known : ∀ place id, e.Holds place id → e.state.Knows id

variable {e e' : Enumerator}

theorem Holds.congr (state : e'.state = e.state) (assigned : e'.assigned = e.assigned)
    (place : Place) (id : String) : e'.Holds place id ↔ e.Holds place id := by
  cases place with
  | pending => rw [holds_pending, holds_pending, state]
  | assigned => rw [holds_assigned, holds_assigned, assigned]
  | finished => rw [holds_finished, holds_finished, state]

theorem once_takeBack {split : Split} (once : (e.state.pending.map Split.id).Nodup) :
    ((e.takeBack split).state.pending.map Split.id).Nodup := by
  rw [takeBack_pending]
  split
  · exact once
  · next gone =>
    rw [List.map_append]
    exact once.append (List.nodup_singleton _)
      (List.disjoint_singleton.mpr fun waiting => gone (.inr waiting))

namespace Accounted

theorem holds_iff (h : e.Accounted) {place : Place} {id : String} (here : e.Holds place id)
    (other : Place) : e.Holds other id ↔ other = place := by
  obtain ⟨p, member, rfl⟩ := h.known place id here
  obtain ⟨only, _, unique⟩ := h.placed p member
  constructor
  · intro there
    rw [unique other there, unique place here]
  · rintro rfl
    exact here

/-- Splits that move from place to place stay accounted for. -/
theorem relocate (h : e.Accounted) (appended : e'.state.appended = e.state.appended)
    (once : (e'.state.pending.map Split.id).Nodup) (move : String → Place → Place)
    (moved : ∀ place id, e.Holds place id → ∀ other, e'.Holds other id ↔ other = move id place)
    (known : ∀ place id, e'.Holds place id → e.state.Knows id) : e'.Accounted := by
  refine ⟨?_, once, ?_⟩
  · intro p member
    rw [appended] at member
    obtain ⟨place, here, _⟩ := h.placed p member
    have now := moved place p.toString here
    exact ⟨move p.toString place, (now _).mpr rfl, fun other there => (now other).mp there⟩
  · intro place id here
    obtain ⟨p, member, same⟩ := known place id here
    exact ⟨p, appended ▸ member, same⟩

theorem congr (h : e.Accounted) (state : e'.state = e.state) (assigned : e'.assigned = e.assigned) :
    e'.Accounted := by
  apply h.relocate (congrArg _ state) (by rw [state]; exact h.once) fun _ place => place
  · intro place id here other
    rw [Holds.congr state assigned]
    exact h.holds_iff here other
  · intro place id here
    exact h.known place id ((Holds.congr state assigned place id).mp here)

/-- All that wait go to readers, or nothing changes. -/
theorem handout {splits : List Split} (h : e.Accounted) (handed : e.Handout splits e') :
    e'.Accounted := by
  cases handed with
  | none state assigned => exact h.congr state assigned
  | all state assigned _ =>
      have emptied : ∀ id, ¬e'.Holds .pending id := by
        intro id
        rw [holds_pending, state]
        exact List.not_mem_nil
      have finished : ∀ id, e'.Holds .finished id ↔ e.Holds .finished id := by
        intro id
        rw [holds_finished, holds_finished, state]
      apply h.relocate (by rw [state]) (by rw [state]; exact List.nodup_nil) fun _ place =>
        if place = .pending then .assigned else place
      · intro place id here other
        have before := h.holds_iff here
        cases other with
        | pending => cases place <;> simp [emptied]
        | assigned =>
            rw [assigned, before, before]
            cases place <;> simp
        | finished =>
            rw [finished, before]
            cases place <;> simp
      · intro place id here
        cases place with
        | pending => exact absurd here (emptied id)
        | assigned =>
            rcases (assigned id).mp here with waited | held
            · exact h.known _ id waited
            · exact h.known _ id held
        | finished => exact h.known _ id ((finished id).mp here)

theorem knows_handout {splits : List Split} (h : e.Accounted) (handed : e.Handout splits e') :
    ∀ split ∈ splits, e'.state.Knows split.id := by
  intro split member
  refine (h.known _ _ (handed.waited split member)).mono fun p old => ?_
  rw [handed.appended]
  exact old

/-- A split that is returned waits again, unless it has finished. -/
theorem takeBack (h : e.Accounted) {split : Split} (known : e.state.Knows split.id) :
    (e.takeBack split).Accounted := by
  have finished : ∀ id, (e.takeBack split).Holds .finished id ↔ e.Holds .finished id := by
    intro id
    rw [holds_finished, holds_finished, takeBack_finished]
  have assigned : ∀ id, (e.takeBack split).Holds .assigned id ↔
      id ≠ split.id ∧ e.Holds .assigned id := by
    intro id
    rw [holds_assigned, holds_assigned, takeBack_assigned, OrderedMap.contains_erase,
      Bool.and_eq_true, bne_iff_ne]
  have pending : ∀ id, (e.takeBack split).Holds .pending id ↔
      e.Holds .pending id ∨ id = split.id ∧ ¬e.Holds .finished id := by
    intro id
    rw [holds_pending, takeBack_pending]
    split
    · next kept =>
      constructor
      · exact .inl
      · rintro (waiting | ⟨rfl, unfinished⟩)
        · exact waiting
        · exact kept.resolve_left unfinished
    · next gone =>
      rw [List.map_append, List.mem_append, List.map_singleton, List.mem_singleton]
      constructor
      · rintro (waiting | rfl)
        · exact .inl waiting
        · exact .inr ⟨rfl, fun ended => gone (.inl ended)⟩
      · rintro (waiting | ⟨rfl, _⟩)
        · exact .inl waiting
        · exact .inr rfl
  apply h.relocate (takeBack_appended e split) ?_ fun id place =>
    if id = split.id ∧ place = .assigned then .pending else place
  · intro place id here other
    have before := h.holds_iff here
    cases other with
    | pending =>
        rw [pending, before, before]
        by_cases same : id = split.id <;> cases place <;> simp [same]
    | assigned =>
        rw [assigned, before]
        by_cases same : id = split.id <;> cases place <;> simp [same]
    | finished =>
        rw [finished, before]
        by_cases same : id = split.id <;> cases place <;> simp [same]
  · intro place id here
    cases place with
    | pending =>
        rcases (pending id).mp here with waiting | ⟨rfl, _⟩
        · exact h.known _ id waiting
        · exact known
    | assigned => exact h.known _ id ((assigned id).mp here).2
    | finished => exact h.known _ id ((finished id).mp here)
  · exact once_takeBack h.once

theorem foldl_takeBack (h : e.Accounted) {splits : List Split}
    (known : ∀ split ∈ splits, e.state.Knows split.id) :
    (splits.foldl Enumerator.takeBack e).Accounted := by
  induction splits generalizing e with
  | nil => exact h
  | cons split rest ih =>
      obtain ⟨first, others⟩ := List.forall_mem_cons.mp known
      apply ih (h.takeBack first)
      intro later member
      refine (others later member).mono fun p old => ?_
      rw [takeBack_appended]
      exact old

/-- Splits that have finished are nowhere else. -/
theorem finishSplits (h : e.Accounted) {ids : List String}
    (known : ∀ id ∈ ids, e.state.Knows id) (ended : e.finishSplits ids = .ok e') :
    e'.Accounted := by
  have eq := finishSplits_eq ended
  have finished : ∀ id, e'.Holds .finished id ↔ id ∈ ids ∨ e.Holds .finished id := by
    intro id
    rw [holds_finished, holds_finished, eq]
    exact OrderedSet.mem_foldl_insert
  have assigned : ∀ id, e'.Holds .assigned id ↔ id ∉ ids ∧ e.Holds .assigned id := by
    intro id
    rw [holds_assigned, holds_assigned, eq, OrderedMap.contains_filter,
      Bool.and_eq_true, Bool.not_eq_true', List.contains_eq_mem, decide_eq_false_iff_not]
  have pending : ∀ id, e'.Holds .pending id ↔ id ∉ ids ∧ e.Holds .pending id := by
    intro id
    rw [holds_pending, holds_pending, eq]
    simp only [List.mem_map, List.mem_filter, Bool.not_eq_true', List.contains_eq_mem,
      decide_eq_false_iff_not]
    constructor
    · rintro ⟨split, ⟨waiting, kept⟩, rfl⟩
      exact ⟨kept, split, waiting, rfl⟩
    · rintro ⟨kept, split, waiting, rfl⟩
      exact ⟨split, ⟨waiting, kept⟩, rfl⟩
  apply h.relocate (by rw [eq]) ?_ fun id place => if id ∈ ids then .finished else place
  · intro place id here other
    have before := h.holds_iff here
    cases other with
    | pending =>
        rw [pending, before]
        by_cases ended : id ∈ ids <;> simp [ended]
    | assigned =>
        rw [assigned, before]
        by_cases ended : id ∈ ids <;> simp [ended]
    | finished =>
        rw [finished, before]
        by_cases ended : id ∈ ids <;> simp [ended]
  · intro place id here
    cases place with
    | pending => exact h.known _ id ((pending id).mp here).2
    | assigned => exact h.known _ id ((assigned id).mp here).2
    | finished =>
        rcases (finished id).mp here with ended | before
        · exact known id ended
        · exact h.known _ id before
  · rw [eq]
    exact h.once.sublist (List.filter_sublist.map Split.id)

/-- The split of a new partition waits, and its id is not in use. -/
theorem add (h : e.Accounted) (split : Split) (distinct : (e.state.add split).Distinct) :
    { e with state := e.state.add split }.Accounted := by
  by_cases known : split.partition ∈ e.state.appended
  · have same : e.state.add split = e.state := by
      rw [EnumeratorState.add, if_pos (OrderedSet.contains_iff.mpr known)]
    rw [same]
    exact h
  have state : e.state.add split = { e.state with
      appended := e.state.appended.insert split.partition
      pending := e.state.pending ++ [split] } := by
    rw [EnumeratorState.add, if_neg (mt OrderedSet.contains_iff.mp known)]
  have other : ∀ p ∈ e.state.appended, p.toString ≠ split.id := by
    intro p member same
    have eq := distinct p (EnumeratorState.mem_add_appended.mpr (.inr member)) split.partition
      (EnumeratorState.mem_add_appended.mpr (.inl rfl)) same
    exact known (eq ▸ member)
  have unused : ∀ place, ¬e.Holds place split.id := by
    intro place here
    obtain ⟨p, member, same⟩ := h.known place _ here
    exact other p member same
  have pending : ∀ id, { e with state := e.state.add split }.Holds .pending id ↔
      id = split.id ∨ e.Holds .pending id := by
    intro id
    rw [holds_pending, holds_pending, state, List.map_append, List.mem_append, or_comm]
    simp
  have finished : ∀ id, { e with state := e.state.add split }.Holds .finished id ↔
      e.Holds .finished id := by
    intro id
    rw [holds_finished, holds_finished, state]
  have elsewhere : ∀ place id, { e with state := e.state.add split }.Holds place id ↔
      place = .pending ∧ id = split.id ∨ e.Holds place id := by
    intro place id
    cases place with
    | pending => simp [pending]
    | assigned => simp [holds_assigned]
    | finished => simp [finished]
  refine ⟨?_, ?_, ?_⟩
  · intro p member
    rcases EnumeratorState.mem_add_appended.mp member with rfl | old
    · refine ⟨.pending, (elsewhere ..).mpr (.inl ⟨rfl, rfl⟩), ?_⟩
      intro place here
      rcases (elsewhere ..).mp here with ⟨same, _⟩ | before
      · exact same
      · exact absurd before (unused place)
    · obtain ⟨place, here, unique⟩ := h.placed p old
      refine ⟨place, (elsewhere ..).mpr (.inr here), ?_⟩
      intro place' there
      rcases (elsewhere ..).mp there with ⟨_, same⟩ | before
      · exact absurd same (other p old)
      · exact unique place' before
  · rw [state, List.map_append]
    exact h.once.append (List.nodup_singleton _)
      (List.disjoint_singleton.mpr (unused .pending))
  · intro place id here
    rcases (elsewhere ..).mp here with ⟨_, rfl⟩ | before
    · exact ⟨split.partition, EnumeratorState.mem_add_appended.mpr (.inl rfl), rfl⟩
    · exact (h.known place id before).mono fun p old =>
        EnumeratorState.mem_add_appended.mpr (.inr old)

theorem foldl_add (h : e.Accounted) (splits : List Split)
    (distinct : (splits.foldl EnumeratorState.add e.state).Distinct) :
    { e with state := splits.foldl EnumeratorState.add e.state }.Accounted := by
  induction splits generalizing e with
  | nil => exact h
  | cons split rest ih =>
      have first := h.add split (distinct.mono (EnumeratorState.appended_foldl_add rest))
      exact ih first distinct

end Accounted

namespace Change

variable {readers : Readers} {operation : Operation} {directives : List Directive}

theorem appended_subset (change : e.Change readers operation directives e') :
    ∀ p ∈ e.state.appended, p ∈ e'.state.appended := by
  intro p member
  cases change with
  | idle | started | closed => exact member
  | readerAdded | requested =>
      rw [(assignPending_handout _ readers).appended]
      exact member
  | @takenBack splits reader =>
      rw [appended_foldl_takeBack]
      exact member
  | finished ended =>
      rw [finishSplits_eq ended]
      exact member
  | abandoned ended =>
      rw [(conclude_finish ended).1]
      exact member
  | @appended _ _ _ splits _ _ _ _ ended =>
      rw [(conclude_finish ended).1]
      have handout := assignPending_handout
        { e with state := splits.foldl EnumeratorState.add e.state } readers
      rw [append, handout.appended]
      exact EnumeratorState.appended_foldl_add splits p member

/-- A turn keeps the account, as long as it is told of known splits only, and hands out such. -/
theorem keeps_account (change : e.Change readers operation directives e') (h : e.Accounted)
    (known : ∀ id ∈ operation.reported, e.state.Knows id) (distinct : e'.state.Distinct) :
    e'.Accounted ∧ ∀ split ∈ handedOut directives, e'.state.Knows split.id := by
  cases change with
  | idle => exact ⟨h, List.forall_mem_nil _⟩
  | started => exact ⟨h.congr rfl rfl, List.forall_mem_nil _⟩
  | closed => exact ⟨h.congr rfl rfl, List.forall_mem_nil _⟩
  | @readerAdded reader =>
      have handout := assignPending_handout { e with signalled := e.signalled.erase reader } readers
      have before : { e with signalled := e.signalled.erase reader }.Accounted := h.congr rfl rfl
      exact ⟨before.handout handout, before.knows_handout handout⟩
  | requested =>
      have handout := assignPending_handout e readers
      exact ⟨h.handout handout, h.knows_handout handout⟩
  | @takenBack splits reader =>
      have before : { e with signalled := e.signalled.erase reader }.Accounted := h.congr rfl rfl
      have members : ∀ split ∈ splits, e.state.Knows split.id :=
        fun split member => known split.id (List.mem_map_of_mem member)
      exact ⟨before.foldl_takeBack members, List.forall_mem_nil _⟩
  | finished ended => exact ⟨h.finishSplits known ended, List.forall_mem_nil _⟩
  | abandoned ended =>
      obtain ⟨state, assigned, told⟩ := conclude_finish ended
      rw [told]
      exact ⟨h.congr state assigned, List.forall_mem_nil _⟩
  | @appended _ _ _ splits _ _ _ _ ended =>
      obtain ⟨state, assigned, told⟩ := conclude_finish ended
      have handout := assignPending_handout
        { e with state := splits.foldl EnumeratorState.add e.state } readers
      rw [state, append] at distinct
      have before := h.foldl_add splits (distinct.mono fun p member => handout.appended ▸ member)
      rw [told, append]
      refine ⟨(before.handout handout).congr state assigned, ?_⟩
      intro split member
      rw [state]
      exact before.knows_handout handout split member

end Change

theorem accounted_ofState (options : EnumeratorOptions) :
    (Enumerator.ofState options .empty).Accounted := by
  refine ⟨nofun, List.nodup_nil, ?_⟩
  intro place id here
  cases place <;> exact nomatch here

end Enumerator

/-- From the empty state on, and whatever happens in whatever order, no split is lost and none is
there twice: each discovered partition has its split at exactly one place. -/
theorem History.accounted (h : History) (fresh : h.state = .empty) (orderly : h.Orderly)
    (distinct : h.current.enumerator.state.Distinct) : h.current.enumerator.Accounted := by
  have all := h.runs.traced (P := fun before c => c.enumerator.state.Distinct →
    c.enumerator.Accounted ∧
      ∀ event ∈ before, ∀ split ∈ event.handed, c.enumerator.state.Knows split.id) ?_ ?_
  · exact (all distinct).1
  · intro _
    rw [fresh]
    exact ⟨Enumerator.accounted_ofState h.options, List.forall_mem_nil _⟩
  · rintro before event after c c' whole accounted step distinct
    cases step with
    | perform operation readers =>
        have change := c.perform_change readers operation
        have grown := change.appended_subset
        obtain ⟨before_accounted, before_known⟩ := accounted (distinct.mono grown)
        have known : ∀ id ∈ operation.reported, c.enumerator.state.Knows id := by
          intro id reported
          obtain ⟨earlier, early, split, out, rfl⟩ := orderly.reported whole id reported
          exact before_known earlier early split out
        obtain ⟨now, handed⟩ := change.keeps_account before_accounted known distinct
        refine ⟨now, ?_⟩
        intro event member split out
        rcases List.mem_append.mp member with early | last
        · exact (before_known event early split out).mono grown
        · rw [List.mem_singleton.mp last] at out
          exact handed split out

namespace Sample

def broker : (question : AdminQuestion) → question.Reply
  | .metadata topic => .ok ⟨topic, 2⟩
  | .topics _ => .ok []
  | .lastMessageId _ => .ok .earliest

def dealt (id : Int32) : Split :=
  .fresh ⟨"persistent://public/default/t", id, [.full], .split⟩ .earliest .never

/-- A source without an end, which looks for new partitions from time to time. -/
def unbounded : EnumeratorOptions where
  configuration := { configuration with partitionDiscoveryInterval := some (.ofSeconds 30) }
  selection := .ofNames ["t"]
  layout := .whole
  startCursor := .earliest
  stopCursor := .never

/-- The only discovery under way goes on, with a topic of some partitions. -/
def discovering (partitions : UInt32) (readers : List UInt32) : Operation × Readers :=
  (.discovery 0 fun
    | .metadata topic => .ok ⟨topic, partitions⟩
    | .topics _ => .ok []
    | .lastMessageId _ => .ok .earliest, .ofList readers)

/-- Two partitions, discovered by a start and dealt to two readers. One split is returned and dealt
again, the other finishes and is returned late. -/
def history : History where
  options :=
    { configuration
      selection := .ofNames ["t"]
      layout := .whole
      startCursor := .earliest
      stopCursor := .never }
  state := .empty
  events := _
  current := _
  runs :=
    .cons (.perform (.start 1) (.ofList [0, 1])) <|
    .cons (.perform (.discovery 0 broker) (.ofList [0, 1])) <|
    .cons (.perform (.discovery 0 broker) (.ofList [0, 1])) <|
    .cons (.perform (.discovery 0 broker) (.ofList [0, 1])) <|
    .cons (.perform (.discovery 0 broker) (.ofList [0, 1])) <|
    .cons (.perform (.discovery 0 broker) (.ofList [0, 1])) <|
    .cons (.perform (.addSplitsBack [dealt 0] 0) (.ofList [1])) <|
    .cons (.perform (.finishSplits [(dealt 1).id]) (.ofList [1])) <|
    .cons (.perform (.addSplitsBack [dealt 1, dealt 0] 1) (.ofList [1])) <|
    .cons (.perform .requestSplit (.ofList [1])) <| .nil _

end Sample

theorem History.accounted_sample : Sample.history.Orderly ∧
    Sample.history.current.enumerator.Holds .assigned (Sample.dealt 0).id ∧
    Sample.history.current.enumerator.Holds .finished (Sample.dealt 1).id ∧
    Sample.history.current.enumerator.Accounted := by
  have orderly : Sample.history.Orderly := by
    decide +kernel
  have distinct : Sample.history.current.enumerator.state.Distinct := by
    decide +kernel
  exact ⟨orderly, by decide +kernel, by decide +kernel,
    Sample.history.accounted rfl orderly distinct⟩

end TopicFeed
