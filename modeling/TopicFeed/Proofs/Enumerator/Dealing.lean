import TopicFeed.Proofs.Enumerator.Signal
import TopicFeed.Proofs.Turns
/-! How splits are dealt. A turn that hands out gives every split that waits an owner among the
registered readers, in turn, and puts the owner on record. -/
namespace TopicFeed

namespace Assignment

theorem splitsOf_add (a : Assignment) (reader other : UInt32) (split : Split) :
    (a.add reader split).splitsOf other =
      if reader = other then a.splitsOf other ++ [split] else a.splitsOf other := by
  rw [splitsOf, add, OrderedMap.get?_insert]
  by_cases same : reader = other
  · rw [if_pos same, if_pos (beq_iff_eq.mpr same.symm), Option.getD_some, same, splitsOf]
  · rw [if_neg same, if_neg fun met => same (eq_of_beq met).symm, splitsOf]

end Assignment

/-- A reader gives splits up: it returns them, or reports them finished. -/
def Operation.GivesUp : Operation → Prop
  | .addSplitsBack _ _ => True
  | .finishSplits _ => True
  | _ => False

namespace Event

variable (event : Event)

theorem handed_of_untold (untold : event.directives = []) : event.handed = [] := by
  rw [handed, untold]
  rfl

theorem handedTo_of_untold (untold : event.directives = []) {reader : UInt32} :
    event.handedTo reader = [] := by
  rw [handedTo, untold]
  rfl

end Event

/-- The splits that one of the readers is the owner of. -/
def sharesOf (owners : List UInt32) (splits : List Split) (reader : UInt32) : List Split :=
  ((owners.zip splits).filter fun share => share.1 = reader).map Prod.snd

theorem sharesOf_cons (owner reader : UInt32) (owners : List UInt32) (split : Split)
    (splits : List Split) : sharesOf (owner :: owners) (split :: splits) reader =
      if owner = reader then split :: sharesOf owners splits reader
      else sharesOf owners splits reader := by
  rw [sharesOf, List.zip_cons_cons, List.filter_cons]
  simp only [decide_eq_true_eq]
  split <;> rfl

theorem length_sharesOf {owners : List UInt32} {splits : List Split}
    (each : owners.length = splits.length) (reader : UInt32) :
    (sharesOf owners splits reader).length = owners.count reader := by
  induction splits generalizing owners with
  | nil =>
      rw [List.length_nil, List.length_eq_zero_iff] at each
      rw [each]
      rfl
  | cons split rest ih =>
      cases owners with
      | nil => exact nomatch each
      | cons owner owners =>
          rw [sharesOf_cons, List.count_cons, ← ih (Nat.succ.inj each)]
          by_cases same : owner = reader
          · rw [if_pos same, if_pos (beq_iff_eq.mpr same), List.length_cons]
          · rw [if_neg same, if_neg fun met => same (eq_of_beq met), Nat.add_zero]

theorem mem_sharesOf {owners : List UInt32} {splits : List Split} {reader : UInt32}
    {split : Split} :
    split ∈ sharesOf owners splits reader ↔ (reader, split) ∈ owners.zip splits := by
  rw [sharesOf, List.mem_map]
  constructor
  · rintro ⟨⟨owner, _⟩, member, rfl⟩
    obtain ⟨among, same⟩ := List.mem_filter.mp member
    rw [← of_decide_eq_true same]
    exact among
  · exact fun among => ⟨_, List.mem_filter.mpr ⟨among, decide_eq_true rfl⟩, rfl⟩

namespace Enumerator

/-- Which reader is on record for a split that was dealt. -/
def recorded (assigned : OrderedMap String UInt32) (owners : List UInt32) (splits : List Split) :
    OrderedMap String UInt32 :=
  (owners.zip splits).foldl (fun assigned share => assigned.insert share.2.id share.1) assigned

/-- Splits are dealt, each to one of the readers, whose turn it is and who goes on record. -/
structure Dealt (e : Enumerator) (readers : List UInt32) (splits : List Split)
    (owners : List UInt32) (e' : Enumerator) : Prop where
  each : owners.length = splits.length
  registered : ∀ r ∈ owners, r ∈ readers
  assigned : e'.assigned = recorded e.assigned owners splits
  /-- As long as the counter of the turns does not overflow. -/
  turns : e.nextReader.toNat + splits.length < 2 ^ 64 →
    owners = inTurn readers e.nextReader.toNat splits.length ∧
      e'.nextReader.toNat = e.nextReader.toNat + splits.length

variable {e e' : Enumerator}

theorem Dealt.congr {readers owners : List UInt32} {splits : List Split} {e₀ last : Enumerator}
    (dealt : e.Dealt readers splits owners e') (assigned₀ : e.assigned = e₀.assigned)
    (next₀ : e.nextReader = e₀.nextReader) (assigned : last.assigned = e'.assigned)
    (next : last.nextReader = e'.nextReader) : e₀.Dealt readers splits owners last where
  each := dealt.each
  registered := dealt.registered
  assigned := by rw [assigned, dealt.assigned, assigned₀]
  turns := by
    rw [next, ← next₀]
    exact dealt.turns

theorem deal_dealt {readers : List UInt32} (some : readers ≠ []) (e : Enumerator)
    (assignment : Assignment) (splits : List Split) :
    ∃ owners, e.Dealt readers splits owners (deal readers e assignment splits).1 ∧
      ∀ r, (deal readers e assignment splits).2.splitsOf r =
        assignment.splitsOf r ++ sharesOf owners splits r := by
  induction splits generalizing e assignment with
  | nil =>
      refine ⟨[], ⟨rfl, List.forall_mem_nil _, rfl, fun _ => ⟨rfl, rfl⟩⟩, fun r => ?_⟩
      exact (List.append_nil _).symm
  | cons split rest ih =>
      have within : e.nextReader.toNat % readers.length < readers.length :=
        Nat.mod_lt _ (List.length_pos_iff.mpr some)
      rw [deal, List.getElem?_eq_getElem within]
      dsimp only
      generalize turn : readers[e.nextReader.toNat % readers.length] = owner
      obtain ⟨owners, dealt, shares⟩ := ih
        { e with nextReader := e.nextReader + 1, assigned := e.assigned.insert split.id owner }
        (assignment.add owner split)
      refine ⟨owner :: owners, ⟨congrArg Nat.succ dealt.each, ?_, dealt.assigned, ?_⟩, fun r => ?_⟩
      · refine List.forall_mem_cons.mpr ⟨?_, dealt.registered⟩
        rw [← turn]
        exact List.getElem_mem within
      · intro fits
        rw [List.length_cons] at fits ⊢
        have next : (e.nextReader + 1).toNat = e.nextReader.toNat + 1 :=
          toNat_add_one (by omega)
        obtain ⟨order, counter⟩ := dealt.turns (by rw [next]; omega)
        rw [next] at order counter
        constructor
        · rw [inTurn, List.getElem?_eq_getElem within, turn, order]
          rfl
        · rw [counter]
          omega
      · rw [shares, Assignment.splitsOf_add, sharesOf_cons]
        split
        · rw [List.append_assoc, List.singleton_append]
        · rfl

/-- What a turn tells the readers: nothing but that no more splits come, or who owns which of the
splits that wait, and then perhaps that no more come. -/
inductive Dealing (e : Enumerator) (readers : Readers) (waiting : List Split) :
    List Directive → Enumerator → Prop
  | none {told : List UInt32} {e' : Enumerator} :
      e'.nextReader = e.nextReader → e'.assigned = e.assigned → e'.state.pending = waiting →
      Dealing e readers waiting (told.map .noMoreSplits) e'
  | all {owners : List UInt32} {assignment : Assignment} {told : List UInt32} {e' : Enumerator} :
      e.Dealt readers.toList waiting owners e' →
      (∀ r, assignment.splitsOf r = sharesOf owners waiting r) →
      assignment.values.flatten.Perm waiting → e'.state.pending = [] →
      Dealing e readers waiting (.assign assignment :: told.map .noMoreSplits) e'

namespace Dealing

variable {readers : Readers} {waiting : List Split} {directives told : List Directive}

theorem of_same (e : Enumerator) (readers : Readers) : e.Dealing readers e.state.pending [] e :=
  @none _ _ _ [] _ rfl rfl rfl

theorem congr_before {e₀ : Enumerator} (dealing : e.Dealing readers waiting directives e')
    (assigned : e.assigned = e₀.assigned) (next : e.nextReader = e₀.nextReader) :
    e₀.Dealing readers waiting directives e' := by
  cases dealing with
  | none next' assigned' pending =>
      exact .none (next'.trans next) (assigned'.trans assigned) pending
  | all dealt shares perm pending =>
      exact .all (dealt.congr assigned next rfl rfl) shares perm pending

theorem signal (dealing : e.Dealing readers waiting directives e') (others : Readers) :
    e.Dealing readers waiting (directives ++ (e'.signal others).2) (e'.signal others).1 := by
  have next : (e'.signal others).1.nextReader = e'.nextReader := by
    rw [Enumerator.signal]
    split <;> rfl
  obtain ⟨more, tells⟩ :
      ∃ more : List UInt32, (e'.signal others).2 = more.map Directive.noMoreSplits := by
    rw [Enumerator.signal]
    split
    · exact ⟨[], rfl⟩
    · exact ⟨_, rfl⟩
  have state := e'.signal_state others
  have assigned := e'.signal_assigned others
  rw [tells]
  cases dealing with
  | none next' assigned' pending =>
      rw [← List.map_append]
      exact .none (next.trans next') (assigned.trans assigned') (state ▸ pending)
  | all dealt shares perm pending =>
      rw [List.cons_append, ← List.map_append]
      exact .all (dealt.congr rfl rfl assigned next) shares perm (state ▸ pending)

theorem assignPending (e : Enumerator) (readers : Readers) :
    e.Dealing readers e.state.pending (e.assignPending readers).2 (e.assignPending readers).1 := by
  rw [Enumerator.assignPending]
  split
  · exact (of_same e readers).signal readers
  · next some =>
    have registered : readers.toList ≠ [] := by
      intro none
      simp [OrderedSet.isEmpty, none] at some
    obtain ⟨owners, dealt, shares⟩ := deal_dealt registered
      { e with state := { e.state with pending := [] } } ∅ e.state.pending
    obtain ⟨state, _, perm⟩ := deal_spec registered
      { e with state := { e.state with pending := [] } } ∅ e.state.pending
    have nothing : (OrderedMap.values (∅ : Assignment)).flatten = [] := rfl
    rw [nothing, List.append_nil] at perm
    have all : e.Dealing readers e.state.pending ([.assign _] ++ [].map .noMoreSplits) _ :=
      .all (dealt.congr rfl rfl rfl rfl) shares perm (by rw [state])
    exact all.signal readers

theorem conclude {purpose : Purpose} {outcome result : Except Failure Unit} {last : Enumerator}
    (dealing : e.Dealing readers waiting directives e')
    (ended : e'.conclude readers purpose directives outcome = .finish last told result) :
    e.Dealing readers waiting told last := by
  rcases conclude_cases ended with ⟨rfl, rfl⟩ | ⟨_, rfl, rfl⟩
  · exact dealing
  · have exhausted :
        e.Dealing readers waiting directives { e' with discoveryExhausted := true } := by
      cases dealing with
      | none next assigned pending => exact .none next assigned pending
      | all dealt shares perm pending =>
          exact .all (dealt.congr rfl rfl rfl rfl) shares perm pending
    exact exhausted.signal readers

/-- Some of the splits that wait are dealt, and each reader gets what it is told of. -/
theorem dealt (dealing : e.Dealing readers waiting directives e') :
    ∃ owners splits, e.Dealt readers.toList splits owners e' ∧
      splits ++ e'.state.pending = waiting ∧ (handedOut directives).Perm splits ∧
      ∀ r, directives.flatMap (Directive.splitsTo r) = sharesOf owners splits r := by
  have nobody (r : UInt32) (told : List UInt32) :
      (told.map Directive.noMoreSplits).flatMap (Directive.splitsTo r) = [] := by
    rw [List.flatMap_map]
    exact List.flatMap_eq_nil_iff.mpr fun _ _ => rfl
  cases dealing with
  | none next assigned pending =>
      refine ⟨[], [], ⟨rfl, List.forall_mem_nil _, assigned, fun _ => ⟨rfl, ?_⟩⟩, pending, ?_,
        fun r => nobody r _⟩
      · rw [next]
        rfl
      · rw [handedOut_noMoreSplits]
  | all dealt shares perm pending =>
      refine ⟨_, _, dealt, ?_, ?_, fun r => ?_⟩
      · rw [pending, List.append_nil]
      · rw [handedOut, List.flatMap_cons, ← handedOut, handedOut_noMoreSplits, List.append_nil]
        exact perm
      · rw [List.flatMap_cons, nobody, List.append_nil]
        exact shares r

end Dealing

theorem foldl_takeBack_nextReader (e : Enumerator) (splits : List Split) :
    (splits.foldl takeBack e).nextReader = e.nextReader := by
  induction splits generalizing e with
  | nil => rfl
  | cons split rest ih =>
      rw [List.foldl_cons, ih, takeBack]
      dsimp only
      split <;> rfl

/-- Nobody is told anything when splits are returned or reported finished. -/
theorem Change.untold {readers : Readers} {operation : Operation} {directives : List Directive}
    (change : e.Change readers operation directives e') (gives : operation.GivesUp) :
    directives = [] ∧ e'.nextReader = e.nextReader := by
  cases change with
  | started | closed | readerAdded | requested | abandoned | appended => exact gives.elim
  | idle => exact ⟨rfl, rfl⟩
  | takenBack => exact ⟨rfl, foldl_takeBack_nextReader _ _⟩
  | finished ended =>
      rw [finishSplits_eq ended]
      exact ⟨rfl, rfl⟩

/-- Unless splits are returned or reported finished, those that wait are dealt together with those
of partitions that become known, or wait all together. -/
theorem Change.dealing {readers : Readers} {operation : Operation} {directives : List Directive}
    (change : e.Change readers operation directives e')
    (alone : ¬operation.GivesUp) :
    ∃ fresh, e.state.Grown fresh e'.state ∧
      e.Dealing readers (e.state.pending ++ fresh) directives e' := by
  cases change with
  | idle | started | closed =>
      exact ⟨[], .of_appended rfl, @Dealing.none _ _ _ [] _ rfl rfl (List.append_nil _).symm⟩
  | @readerAdded reader =>
      have out := assignPending_handout { e with signalled := e.signalled.erase reader } readers
      refine ⟨[], .of_appended out.appended, ?_⟩
      rw [List.append_nil]
      have dealing :=
        Dealing.assignPending { e with signalled := e.signalled.erase reader } readers
      exact dealing.congr_before rfl rfl
  | requested =>
      have out := assignPending_handout e readers
      refine ⟨[], .of_appended out.appended, ?_⟩
      rw [List.append_nil]
      exact .assignPending e readers
  | takenBack | finished => exact absurd trivial alone
  | abandoned ended =>
      refine ⟨[], .of_appended (by rw [(conclude_finish ended).1]), ?_⟩
      rw [List.append_nil]
      exact (Dealing.of_same e readers).conclude ended
  | @appended _ _ _ splits _ _ _ _ ended =>
      obtain ⟨fresh, grown, pending, _⟩ := e.state.foldl_add splits
      have out := assignPending_handout
        { e with state := splits.foldl EnumeratorState.add e.state } readers
      have dealing := Dealing.assignPending
        { e with state := splits.foldl EnumeratorState.add e.state } readers
      dsimp only at dealing
      rw [pending] at dealing
      have dealing : e.Dealing readers (e.state.pending ++ fresh) _ _ :=
        dealing.congr_before rfl rfl
      refine ⟨fresh, grown.congr ?_, dealing.conclude ended⟩
      rw [(conclude_finish ended).1]
      exact out.appended

end Enumerator

/-- Only readers that are registered get splits. -/
theorem History.registered (h : History) {event : Event} (happens : event ∈ h.events)
    {reader : UInt32} {split : Split} (gets : split ∈ event.handedTo reader) :
    reader ∈ event.readers := by
  refine h.runs.labels (P := fun event => ∀ reader, ∀ split ∈ event.handedTo reader,
    reader ∈ event.readers) ?_ event happens reader split gets
  rintro c event next step reader split gets
  cases step with
  | perform operation readers =>
      have change := c.perform_change readers operation
      by_cases gives : operation.GivesUp
      · rw [Event.handedTo_of_untold _ (change.untold gives).1] at gets
        exact absurd gets List.not_mem_nil
      · obtain ⟨_, _, dealing⟩ := change.dealing gives
        obtain ⟨owners, splits, dealt, _, _, shares⟩ := dealing.dealt
        rw [Event.handedTo, shares, mem_sharesOf] at gets
        exact dealt.registered reader (List.of_mem_zip gets).1

end TopicFeed
