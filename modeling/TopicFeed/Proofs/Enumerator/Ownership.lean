import TopicFeed.Proofs.Enumerator.Completion
import TopicFeed.Proofs.Enumerator.Dealing
/-! Ownership. A split belongs to the reader it was handed to last, until this reader returns it or
it is reported finished. The enumerator has the owners on record, as long as nobody returns a split
that belongs to another reader. -/
namespace TopicFeed

namespace Event

/-- A reader returns a split, and the return is accepted. -/
def Returns (event : Event) (reader : UInt32) (id : String) : Prop :=
  event.result = some (.ok ()) ∧
    ∃ splits, event.operation = .addSplitsBack splits reader ∧ id ∈ splits.map Split.id

/-- A split is not handed out, its owner does not return it, and nobody reports it finished. -/
structure Leaves (event : Event) (owner : UInt32) (id : String) : Prop where
  unhanded : id ∉ event.handed.map Split.id
  unreturned : ¬event.Returns owner id
  unfinished : ¬event.Reports id

end Event

/-- The reader is the last one that a split was handed to, and did not give it up. -/
def Owns (events : List Event) (reader : UInt32) (id : String) : Prop :=
  ∃ before event after, events = before ++ event :: after ∧
    id ∈ (event.handedTo reader).map Split.id ∧ ∀ later ∈ after, later.Leaves reader id

theorem not_owns_nil (reader : UInt32) (id : String) : ¬Owns [] reader id := by
  rintro ⟨before, event, after, whole, _⟩
  exact absurd whole.symm (List.append_ne_nil_of_right_ne_nil before (List.cons_ne_nil event after))

theorem owns_concat {events : List Event} {event : Event} {reader : UInt32} {id : String} :
    Owns (events ++ [event]) reader id ↔
      id ∈ (event.handedTo reader).map Split.id ∨
        Owns events reader id ∧ event.Leaves reader id := by
  constructor
  · rintro ⟨before, handing, after, whole, gets, leaves⟩
    rcases after.eq_nil_or_concat with rfl | ⟨between, last, rfl⟩
    · obtain ⟨rfl, same⟩ := List.append_inj' whole rfl
      cases same
      exact .inl gets
    · rw [List.concat_eq_append] at whole leaves
      rw [← List.cons_append, ← List.append_assoc] at whole
      obtain ⟨rfl, same⟩ := List.append_inj' whole rfl
      cases same
      obtain ⟨earlier, now⟩ := List.forall_mem_append.mp leaves
      exact .inr ⟨⟨before, handing, between, rfl, gets, earlier⟩, now _ List.mem_cons_self⟩
  · rintro (gets | ⟨⟨before, handing, after, rfl, gets, leaves⟩, now⟩)
    · exact ⟨events, event, [], rfl, gets, List.forall_mem_nil _⟩
    · refine ⟨before, handing, after ++ [event], ?_, gets, ?_⟩
      · rw [List.append_assoc, List.cons_append]
      · exact List.forall_mem_append.mpr ⟨leaves, List.forall_mem_singleton.mpr now⟩

namespace EnumeratorState

variable {s t : EnumeratorState}

/-- No split waits twice, and all that wait are known. -/
structure Tidy (s : EnumeratorState) : Prop where
  once : (s.pending.map Split.id).Nodup
  known : ∀ split ∈ s.pending, s.Knows split.id

theorem Grown.not_knows {fresh : List Split} (grown : s.Grown fresh t) (distinct : t.Distinct) :
    ∀ split ∈ fresh, ¬s.Knows split.id := by
  rintro split new ⟨p, old, same⟩
  have known := (grown.known split.partition).mpr (.inl (List.mem_map_of_mem new))
  obtain rfl := distinct p ((grown.known p).mpr (.inr old)) _ known same
  exact grown.unknown split new old

/-- Splits that become known can wait with those that do. -/
theorem Tidy.grow {fresh : List Split} (tidy : s.Tidy) (grown : s.Grown fresh t)
    (distinct : t.Distinct) : ((s.pending ++ fresh).map Split.id).Nodup ∧
      ∀ split ∈ s.pending ++ fresh, t.Knows split.id := by
  have known (split : Split) (new : split ∈ fresh) : split.partition ∈ t.appended :=
    (grown.known _).mpr (.inl (List.mem_map_of_mem new))
  constructor
  · rw [List.map_append]
    refine tidy.once.append ?_ ?_
    · refine List.Nodup.map_on ?_ (List.Nodup.of_map _ grown.once)
      intro x hx y hy same
      have equal := distinct _ (known x hx) _ (known y hy) same
      exact List.inj_on_of_nodup_map grown.once hx hy equal
    · intro id old new
      obtain ⟨split, waiting, rfl⟩ := List.mem_map.mp old
      obtain ⟨other, fresh, same⟩ := List.mem_map.mp new
      exact grown.not_knows distinct other fresh (same ▸ tidy.known split waiting)
  · intro split member
    rcases List.mem_append.mp member with old | new
    · exact (tidy.known split old).mono fun p known => (grown.known p).mpr (.inr known)
    · exact ⟨_, known split new, rfl⟩

end EnumeratorState

namespace Enumerator

variable {e e' : Enumerator}

/-- Splits that readers have are known and do not wait. -/
structure Tidy (e : Enumerator) : Prop where
  state : e.state.Tidy
  known : ∀ id, e.Holds .assigned id → e.state.Knows id
  apart : ∀ id, e.Holds .assigned id → ¬e.Holds .pending id

theorem get?_recorded {assigned : OrderedMap String UInt32} {owners : List UInt32}
    {splits : List Split} (each : owners.length = splits.length)
    (once : (splits.map Split.id).Nodup) {id : String} {reader : UInt32} :
    (recorded assigned owners splits).get? id = some reader ↔
      id ∈ (sharesOf owners splits reader).map Split.id ∨
        id ∉ splits.map Split.id ∧ assigned.get? id = some reader := by
  induction splits generalizing owners assigned with
  | nil =>
      rw [List.length_nil, List.length_eq_zero_iff] at each
      rw [each]
      simp [recorded, sharesOf]
  | cons split rest ih =>
      cases owners with
      | nil => cases each
      | cons owner owners =>
          obtain ⟨first, others⟩ := List.nodup_cons.mp once
          have later : (recorded (assigned.insert split.id owner) owners rest).get? id =
            some reader ↔ _ := ih (Nat.succ.inj each) others
          have share : id ∈ (sharesOf owners rest reader).map Split.id →
              id ∈ rest.map Split.id := by
            intro member
            obtain ⟨other, gets, rfl⟩ := List.mem_map.mp member
            exact List.mem_map_of_mem (List.of_mem_zip (mem_sharesOf.mp gets)).2
          rw [recorded, List.zip_cons_cons, List.foldl_cons, ← recorded, later,
            OrderedMap.get?_insert, sharesOf_cons, List.map_cons, List.mem_cons]
          by_cases same : id = split.id
          · rw [if_pos (beq_iff_eq.mpr same), Option.some.injEq]
            subst same
            have gone := mt share first
            by_cases mine : owner = reader <;> simp [mine, gone, first]
          · rw [if_neg fun met => same (eq_of_beq met)]
            by_cases mine : owner = reader <;> simp [mine, same]

theorem holds_assigned_iff {id : String} :
    e.Holds .assigned id ↔ ∃ reader, e.assigned.get? id = some reader := Option.isSome_iff_exists

/-- What is dealt goes from those that wait to the readers that are told so. -/
theorem Tidy.deal {readers : Readers} {fresh : List Split} {directives : List Directive}
    (tidy : e.Tidy) (grown : e.state.Grown fresh e'.state) (distinct : e'.state.Distinct)
    (dealing : e.Dealing readers (e.state.pending ++ fresh) directives e') :
    e'.Tidy ∧ (∀ split ∈ handedOut directives,
        e'.state.Knows split.id ∧ ¬e.Holds .assigned split.id) ∧
      ∀ id reader, e'.assigned.get? id = some reader ↔
        id ∈ (directives.flatMap (Directive.splitsTo reader)).map Split.id ∨
          id ∉ (handedOut directives).map Split.id ∧ e.assigned.get? id = some reader := by
  obtain ⟨once, known⟩ := tidy.state.grow grown distinct
  have apart (split : Split) (waits : split ∈ e.state.pending ++ fresh) :
      ¬e.Holds .assigned split.id := by
    intro held
    rcases List.mem_append.mp waits with old | new
    · exact tidy.apart _ held (List.mem_map_of_mem old)
    · exact grown.not_knows distinct split new (tidy.known _ held)
  -- what is dealt and what is left are the splits that waited, which have different ids
  obtain ⟨owners, splits, dealt, whole, perm, shares⟩ := dealing.dealt
  rw [← whole] at once known apart
  rw [List.map_append] at once
  obtain ⟨once, later, differ⟩ := List.nodup_append.mp once
  have listed (id : String) : id ∈ (handedOut directives).map Split.id ↔ id ∈ splits.map Split.id :=
    (perm.map Split.id).mem_iff
  have ledger (id : String) (reader : UInt32) : e'.assigned.get? id = some reader ↔
      id ∈ (sharesOf owners splits reader).map Split.id ∨
        id ∉ splits.map Split.id ∧ e.assigned.get? id = some reader := by
    rw [dealt.assigned]
    exact get?_recorded dealt.each once
  have held (id : String) (holds : e'.Holds .assigned id) :
      id ∈ splits.map Split.id ∨ e.Holds .assigned id := by
    obtain ⟨reader, found⟩ := holds_assigned_iff.mp holds
    rcases (ledger id reader).mp found with now | ⟨_, before⟩
    · obtain ⟨split, gets, rfl⟩ := List.mem_map.mp now
      exact .inl (List.mem_map_of_mem (List.of_mem_zip (mem_sharesOf.mp gets)).2)
    · exact .inr (holds_assigned_iff.mpr ⟨reader, before⟩)
  refine ⟨⟨⟨later, ?waiting⟩, ?known, ?apart⟩, ?handed, ?ledger⟩
  case waiting => exact fun split waits => known split (List.mem_append_right _ waits)
  case known =>
    intro id holds
    rcases held id holds with now | before
    · obtain ⟨split, dealt, rfl⟩ := List.mem_map.mp now
      exact known split (List.mem_append_left _ dealt)
    · exact (tidy.known id before).mono fun p old => (grown.known p).mpr (.inr old)
  case apart =>
    intro id holds waits
    rcases held id holds with now | before
    · exact differ id now id waits rfl
    · obtain ⟨split, member, rfl⟩ := List.mem_map.mp waits
      exact apart split (List.mem_append_right _ member) before
  case handed =>
    intro split out
    have member := List.mem_append_left e'.state.pending (perm.subset out)
    exact ⟨known split member, apart split member⟩
  case ledger =>
    intro id reader
    rw [ledger, shares, listed]

/-- Splits that are returned leave whoever has them. -/
theorem get?_foldl_takeBack (e : Enumerator) (splits : List Split) (id : String) :
    (splits.foldl takeBack e).assigned.get? id =
      if id ∈ splits.map Split.id then none else e.assigned.get? id := by
  induction splits generalizing e with
  | nil => rfl
  | cons split rest ih =>
      have erased : (e.assigned.erase split.id).get? id =
          if id != split.id then e.assigned.get? id else none :=
        e.assigned.get?_filter id (· != split.id)
      rw [List.foldl_cons, ih, takeBack_assigned, erased, List.map_cons]
      by_cases same : id = split.id <;> simp [same]

theorem once_foldl_takeBack (splits : List Split) (once : (e.state.pending.map Split.id).Nodup) :
    ((splits.foldl takeBack e).state.pending.map Split.id).Nodup := by
  induction splits generalizing e with
  | nil => exact once
  | cons split rest ih => exact ih (once_takeBack once)

theorem Tidy.takeBack (tidy : e.Tidy) {splits : List Split}
    (known : ∀ split ∈ splits, e.state.Knows split.id) : (splits.foldl takeBack e).Tidy := by
  have same := appended_foldl_takeBack e splits
  have mono {id : String} (old : e.state.Knows id) :
      (splits.foldl Enumerator.takeBack e).state.Knows id :=
    old.mono fun p member => same ▸ member
  have waits := (Flow.foldl_takeBack e splits).2
  have held (id : String) (holds : (splits.foldl Enumerator.takeBack e).Holds .assigned id) :
      id ∉ splits.map Split.id ∧ e.Holds .assigned id := by
    obtain ⟨reader, found⟩ := holds_assigned_iff.mp holds
    rw [get?_foldl_takeBack] at found
    split at found
    · exact nomatch found
    · next kept => exact ⟨kept, holds_assigned_iff.mpr ⟨reader, found⟩⟩
  refine ⟨⟨once_foldl_takeBack splits tidy.state.once, ?_⟩, ?_, ?_⟩
  · intro split waiting
    rcases waits split waiting with old | ⟨back, _⟩
    · exact mono (tidy.state.known split old)
    · exact mono (known split back)
  · exact fun id holds => mono (tidy.known id (held id holds).2)
  · intro id holds waiting
    obtain ⟨kept, before⟩ := held id holds
    obtain ⟨split, member, rfl⟩ := List.mem_map.mp waiting
    rcases waits split member with old | ⟨back, _⟩
    · exact tidy.apart _ before (List.mem_map_of_mem old)
    · exact kept (List.mem_map_of_mem back)

theorem Tidy.finishSplits {ids : List String} (tidy : e.Tidy)
    (ended : e.finishSplits ids = .ok e') : e'.Tidy := by
  rw [finishSplits_eq ended]
  have part :
      (e.state.pending.filter fun split => !ids.contains split.id).Sublist e.state.pending :=
    List.filter_sublist
  have held (id : String) (holds : (e.assigned.filter fun id _ => !ids.contains id).contains id) :
      e.Holds .assigned id := by
    rw [OrderedMap.contains_filter, Bool.and_eq_true] at holds
    exact holds.2
  refine ⟨⟨tidy.state.once.sublist (part.map _), ?_⟩, ?_, ?_⟩
  · exact fun split waits => tidy.state.known split (part.subset waits)
  · exact fun id holds => tidy.known id (held id holds)
  · exact fun id holds waits => tidy.apart id (held id holds) ((part.map _).subset waits)

end Enumerator

namespace Event

/-- Nobody returns a split that belongs to another reader. -/
def Loyal (before : List Event) (event : Event) : Prop :=
  ∀ reader id, event.Returns reader id → ∀ other, Owns before other id → other = reader

theorem leaves_of_untold {event : Event} {owner : UInt32} {id : String}
    (untold : event.directives = []) :
    event.Leaves owner id ↔ ¬event.Returns owner id ∧ ¬event.Reports id := by
  constructor
  · exact fun leaves => ⟨leaves.unreturned, leaves.unfinished⟩
  · rintro ⟨unreturned, unfinished⟩
    refine ⟨?_, unreturned, unfinished⟩
    rw [event.handed_of_untold untold]
    exact List.not_mem_nil

theorem kept_of_refused {event : Event} {failure : Failure} {reader : UInt32} {id : String}
    (refused : event.result = some (.error failure)) :
    ¬event.Returns reader id ∧ ¬event.Reports id := by
  constructor
  · rintro ⟨accepted, _⟩
    cases refused.symm.trans accepted
  · rintro ⟨accepted, _⟩
    cases refused.symm.trans accepted

theorem leaves_of_alone {event : Event} {owner : UInt32} {id : String}
    (alone : ¬event.operation.GivesUp) :
    event.Leaves owner id ↔ id ∉ event.handed.map Split.id := by
  refine ⟨Leaves.unhanded, fun unhanded => ⟨unhanded, ?_, ?_⟩⟩
  · rintro ⟨_, splits, same, _⟩
    rw [same] at alone
    exact alone trivial
  · rintro ⟨_, ids, same, _⟩
    rw [same] at alone
    exact alone trivial

end Event

namespace Coordinator

variable {c : Coordinator} {before : List Event} {readers : Readers} {operation : Operation}

section AddSplitsBack

variable (readers) (splits : List Split) (reader : UInt32)

theorem perform_addSplitsBack (running : c.enumerator.lifecycle ≠ .closed) :
    c.perform readers (.addSplitsBack splits reader) =
      ⟨⟨splits.foldl Enumerator.takeBack
        { c.enumerator with signalled := c.enumerator.signalled.erase reader }, c.discoveries⟩,
          [], some (.ok ())⟩ := by
  rw [perform, Enumerator.addSplitsBack, Enumerator.checkOpen_bind, if_neg running]
  rfl

theorem perform_addSplitsBack_refused (closed : c.enumerator.lifecycle = .closed) :
    c.perform readers (.addSplitsBack splits reader) =
      ⟨c, [], some (.error .enumeratorClosed)⟩ := by
  rw [perform, Enumerator.addSplitsBack, Enumerator.checkOpen_bind, if_pos closed]
  rfl

variable {splits reader} in
theorem returns_iff (running : c.enumerator.lifecycle ≠ .closed) {other : UInt32} {id : String} :
    (c.event readers (.addSplitsBack splits reader)).Returns other id ↔
      other = reader ∧ id ∈ splits.map Split.id := by
  rw [event, perform_addSplitsBack readers splits reader running]
  constructor
  · rintro ⟨_, others, same, back⟩
    cases same
    exact ⟨rfl, back⟩
  · rintro ⟨rfl, back⟩
    exact ⟨rfl, splits, rfl, back⟩

end AddSplitsBack

/-- A return leaves the splits of other readers with them. -/
def KeepsOwners (c : Coordinator) (operation : Operation) (next : Coordinator) : Prop :=
  ∀ splits reader, operation = .addSplitsBack splits reader → ∀ id other, other ≠ reader →
    c.enumerator.assigned.get? id = some other →
      next.enumerator.assigned.get? id = some other ∧ ¬next.enumerator.Holds .pending id

/-- The enumerator has the owner of each split on record. -/
structure Custody (before : List Event) (c : Coordinator) : Prop where
  tidy : c.enumerator.Tidy
  ledger : ∀ id reader, c.enumerator.assigned.get? id = some reader ↔ Owns before reader id
  handed : ∀ event ∈ before, ∀ split ∈ event.handed, c.enumerator.state.Knows split.id

namespace Custody

theorem concat {event : Event} {next : Coordinator} (custody : c.Custody before)
    (tidy : next.enumerator.Tidy)
    (grown : ∀ p ∈ c.enumerator.state.appended, p ∈ next.enumerator.state.appended)
    (handed : ∀ split ∈ event.handed, next.enumerator.state.Knows split.id)
    (ledger : ∀ id reader, next.enumerator.assigned.get? id = some reader ↔
      id ∈ (event.handedTo reader).map Split.id ∨
        c.enumerator.assigned.get? id = some reader ∧ event.Leaves reader id) :
    next.Custody (before ++ [event]) where
  tidy := tidy
  ledger := by
    intro id reader
    rw [ledger, custody.ledger, owns_concat]
  handed := by
    refine List.forall_mem_append.mpr ⟨?_, List.forall_mem_singleton.mpr handed⟩
    exact fun earlier early split out => (custody.handed earlier early split out).mono grown

theorem concat_untold {event : Event} {next : Coordinator} (custody : c.Custody before)
    (tidy : next.enumerator.Tidy) (untold : event.directives = [])
    (same : next.enumerator.state.appended = c.enumerator.state.appended)
    (ledger : ∀ id reader, next.enumerator.assigned.get? id = some reader ↔
      c.enumerator.assigned.get? id = some reader ∧ ¬event.Returns reader id ∧ ¬event.Reports id) :
    next.Custody (before ++ [event]) := by
  apply custody.concat tidy (by rw [same]; exact fun _ member => member)
  · rw [event.handed_of_untold untold]
    exact List.forall_mem_nil _
  · intro id reader
    rw [event.handedTo_of_untold untold, ledger, Event.leaves_of_untold untold]
    exact (or_iff_right List.not_mem_nil).symm

/-- Splits are dealt to new owners that belong to nobody. -/
theorem deal (custody : c.Custody before)
    (distinct : (c.perform readers operation).next.enumerator.state.Distinct)
    (alone : ¬operation.GivesUp) :
    (c.perform readers operation).next.Custody (before ++ [c.event readers operation]) ∧
      ∀ split ∈ (c.event readers operation).handed, ∀ reader, ¬Owns before reader split.id := by
  have change := c.perform_change readers operation
  obtain ⟨fresh, grown, dealing⟩ := change.dealing alone
  obtain ⟨tidy, handed, ledger⟩ := custody.tidy.deal grown distinct dealing
  constructor
  · apply custody.concat tidy change.appended_subset
    · exact fun split out => (handed split out).1
    intro id reader
    rw [Event.leaves_of_alone alone, and_comm]
    exact ledger id reader
  · intro split out reader owns
    have has := (custody.ledger split.id reader).mpr owns
    exact (handed split out).2 (Enumerator.holds_assigned_iff.mpr ⟨reader, has⟩)

theorem takeBack {splits : List Split} {reader : UInt32} (custody : c.Custody before)
    (known : ∀ split ∈ splits, c.enumerator.state.Knows split.id)
    (loyal : (c.event readers (.addSplitsBack splits reader)).Loyal before) :
    (c.perform readers (.addSplitsBack splits reader)).next.Custody
      (before ++ [c.event readers (.addSplitsBack splits reader)]) := by
  rcases eq_or_ne c.enumerator.lifecycle .closed with closed | running
  · rw [event, perform_addSplitsBack_refused readers splits reader closed]
    apply custody.concat_untold custody.tidy rfl rfl
    exact fun id other => (and_iff_left (Event.kept_of_refused rfl)).symm
  · have untold := ((c.perform_change readers (.addSplitsBack splits reader)).untold trivial).1
    have signalled : Enumerator.Tidy
        { c.enumerator with signalled := c.enumerator.signalled.erase reader } :=
      ⟨custody.tidy.state, custody.tidy.known, custody.tidy.apart⟩
    have unfinished (id : String) :
        ¬(c.event readers (.addSplitsBack splits reader)).Reports id := by
      rintro ⟨_, ids, same, _⟩
      cases same
    rw [perform_addSplitsBack readers splits reader running]
    apply custody.concat_untold (signalled.takeBack known) untold
      (Enumerator.appended_foldl_takeBack _ splits)
    intro id other
    rw [Enumerator.get?_foldl_takeBack, returns_iff readers running]
    split
    · next back =>
      refine iff_of_false (fun none => ?_) ?_
      · cases none
      rintro ⟨has, unreturned, _⟩
      have owns := (custody.ledger id other).mp has
      exact unreturned ⟨loyal reader id ((returns_iff readers running).mpr ⟨rfl, back⟩) other owns,
        back⟩
    · next kept => exact (and_iff_left ⟨fun back => kept back.2, unfinished id⟩).symm

theorem finishSplits {ids : List String} (custody : c.Custody before) :
    (c.perform readers (.finishSplits ids)).next.Custody
      (before ++ [c.event readers (.finishSplits ids)]) := by
  cases ended : c.enumerator.finishSplits ids with
  | error failure =>
      rw [event, perform_finishSplits_refused readers ended]
      apply custody.concat_untold custody.tidy rfl rfl
      exact fun id other => (and_iff_left (Event.kept_of_refused rfl)).symm
  | ok e =>
      rw [event, perform_finishSplits readers ended]
      apply custody.concat_untold (custody.tidy.finishSplits ended) rfl
      · rw [Enumerator.finishSplits_eq ended]
      · intro id other
        have reports : Event.Reports ⟨.finishSplits ids, readers, [], some (.ok ())⟩ id ↔
            id ∈ ids := by
          simp [Event.Reports]
        have back : ¬Event.Returns ⟨.finishSplits ids, readers, [], some (.ok ())⟩ other id := by
          rintro ⟨_, splits, same, _⟩
          cases same
        rw [reports, and_iff_right back, Enumerator.finishSplits_eq ended, OrderedMap.get?_filter]
        by_cases listed : id ∈ ids <;> simp [listed]

/-- As long as nobody returns what belongs to another reader, the record stays true. -/
theorem perform (custody : c.Custody before)
    (known : ∀ split ∈ operation.returned, c.enumerator.state.Knows split.id)
    (distinct : (c.perform readers operation).next.enumerator.state.Distinct)
    (loyal : (c.event readers operation).Loyal before) :
    (c.perform readers operation).next.Custody (before ++ [c.event readers operation]) := by
  cases operation with
  | addSplitsBack => exact custody.takeBack known loyal
  | finishSplits => exact custody.finishSplits
  | _ => exact (custody.deal distinct id).1

/-- Only splits that belong to nobody are handed out. -/
theorem not_owns (custody : c.Custody before)
    (distinct : (c.perform readers operation).next.enumerator.state.Distinct) :
    ∀ split ∈ (c.event readers operation).handed, ∀ reader, ¬Owns before reader split.id := by
  by_cases gives : operation.GivesUp
  · rw [Event.handed_of_untold _ ((c.perform_change readers operation).untold gives).1]
    exact List.forall_mem_nil _
  · exact (custody.deal distinct gives).2

theorem keepsOwners (custody : c.Custody before)
    (loyal : (c.event readers operation).Loyal before) :
    c.KeepsOwners operation (c.perform readers operation).next := by
  rintro splits reader rfl id other differs has
  have apart := custody.tidy.apart id (Enumerator.holds_assigned_iff.mpr ⟨other, has⟩)
  rcases eq_or_ne c.enumerator.lifecycle .closed with closed | running
  · rw [perform_addSplitsBack_refused readers splits reader closed]
    exact ⟨has, apart⟩
  · have kept : id ∉ splits.map Split.id := by
      intro back
      have owns := (custody.ledger id other).mp has
      exact differs (loyal reader id ((returns_iff readers running).mpr ⟨rfl, back⟩) other owns)
    rw [perform_addSplitsBack readers splits reader running]
    constructor
    · rw [Enumerator.get?_foldl_takeBack, if_neg kept]
      exact has
    · intro waiting
      obtain ⟨split, member, rfl⟩ := List.mem_map.mp waiting
      rcases (Enumerator.Flow.foldl_takeBack _ splits).2 split member with old | ⟨back, _⟩
      · exact apart (List.mem_map_of_mem old)
      · exact kept (List.mem_map_of_mem back)

theorem loyal (custody : c.Custody before)
    (keeps : c.KeepsOwners operation (c.perform readers operation).next) :
    (c.event readers operation).Loyal before := by
  intro reader id returns other owns
  have ⟨accepted, splits, same, back⟩ := returns
  obtain rfl : operation = .addSplitsBack splits reader := same
  by_contra differs
  have has := (custody.ledger id other).mpr owns
  have kept := (keeps splits reader rfl id other differs has).1
  rcases eq_or_ne c.enumerator.lifecycle .closed with closed | running
  · rw [event, perform_addSplitsBack_refused readers splits reader closed] at accepted
    cases accepted
  · rw [perform_addSplitsBack readers splits reader running, Enumerator.get?_foldl_takeBack,
      if_pos back] at kept
    cases kept

end Custody

theorem appended_subset_of_runs {last : Coordinator} {events : List Event}
    (runs : Runs Step c events last) :
    ∀ p ∈ c.enumerator.state.appended, p ∈ last.enumerator.state.appended := by
  induction runs with
  | nil => exact fun _ known => known
  | @cons c _ _ _ _ first _ ih =>
      cases first with
      | perform operation readers =>
          have change := c.perform_change readers operation
          exact fun p known => ih p (change.appended_subset p known)

end Coordinator

end TopicFeed
