import TopicFeed.Enumerator.Discovery
/-! What each operation of an enumerator does to its splits. An operation that hands out hands out
all that waits or nothing; the others move single splits. -/
namespace TopicFeed

def Directive.splits : Directive → List Split
  | .assign assignment => assignment.values.flatten
  | .noMoreSplits _ => []

def handedOut (directives : List Directive) : List Split := directives.flatMap Directive.splits

@[simp] theorem handedOut_append (directives later : List Directive) :
    handedOut (directives ++ later) = handedOut directives ++ handedOut later :=
  List.flatMap_append

@[simp] theorem handedOut_noMoreSplits (readers : List UInt32) :
    handedOut (readers.map .noMoreSplits) = [] := by
  induction readers with
  | nil => rfl
  | cons reader rest ih => exact ih

namespace Assignment

theorem insertSorted_splits {reader : UInt32} {split : Split} {l : List (UInt32 × List Split)}
    (ascending : l.Pairwise fun a b => compare a.1 b.1 = .lt) :
    ((OrderedMap.insertSorted reader ((l.lookup reader).getD [] ++ [split]) l).map
      (·.2)).flatten.Perm (split :: (l.map (·.2)).flatten) := by
  induction l with
  | nil => exact .refl _
  | cons e rest ih =>
      obtain ⟨other, splits⟩ := e
      obtain ⟨first, tail⟩ := List.pairwise_cons.mp ascending
      rw [OrderedMap.insertSorted]
      split
      · next less =>
        have absent : ((other, splits) :: rest).lookup reader = none := by
          apply List.lookup_eq_none_iff.mpr
          intro entry member
          have below : compare reader entry.1 = .lt := by
            rcases List.mem_cons.mp member with rfl | later
            · exact less
            · exact Std.TransCmp.lt_trans less (first entry later)
          apply bne_iff_ne.mpr
          rintro rfl
          rw [Std.compare_self] at below
          cases below
        rw [absent]
        exact .refl _
      · next same =>
        obtain rfl : reader = other := Std.LawfulEqOrd.eq_of_compare same
        rw [List.lookup_cons_self, Option.getD_some, List.map_cons, List.flatten_cons]
        exact (List.perm_append_singleton split splits).append_right _
      · next greater =>
        have differs : (reader == other) = false := by
          apply beq_false_of_ne
          rintro rfl
          rw [Std.compare_self] at greater
          cases greater
        have later : ((other, splits) :: rest).lookup reader = rest.lookup reader := by
          rw [List.lookup_cons, differs]
        rw [later, List.map_cons, List.flatten_cons, List.map_cons, List.flatten_cons]
        exact ((ih tail).append_left splits).trans List.perm_middle

theorem add_splits (a : Assignment) (reader : UInt32) (split : Split) :
    (a.add reader split).values.flatten.Perm (split :: a.values.flatten) :=
  insertSorted_splits a.ascending

end Assignment

namespace Enumerator

variable (e : Enumerator) (readers : Readers)

@[simp] theorem signal_state : (e.signal readers).1.state = e.state := by
  rw [signal]
  split <;> rfl

@[simp] theorem signal_assigned : (e.signal readers).1.assigned = e.assigned := by
  rw [signal]
  split <;> rfl

@[simp] theorem signal_handedOut : handedOut (e.signal readers).2 = [] := by
  rw [signal]
  split
  · rfl
  · exact handedOut_noMoreSplits _

/-- Dealt splits go to one reader each and count as assigned. -/
theorem deal_spec {readers : List UInt32} (some : readers ≠ []) (e : Enumerator)
    (assignment : Assignment) (splits : List Split) :
    (deal readers e assignment splits).1.state = e.state ∧
      (∀ id, (deal readers e assignment splits).1.assigned.contains id = true ↔
        id ∈ splits.map Split.id ∨ e.assigned.contains id = true) ∧
      (deal readers e assignment splits).2.values.flatten.Perm
        (splits ++ assignment.values.flatten) := by
  induction splits generalizing e assignment with
  | nil => exact ⟨rfl, fun _ => by simp [deal], .refl _⟩
  | cons split rest ih =>
      have turn : e.nextReader.toNat % readers.length < readers.length :=
        Nat.mod_lt _ (List.length_pos_iff.mpr some)
      rw [deal, List.getElem?_eq_getElem turn]
      obtain ⟨state, assigned, handed⟩ := ih
        { e with
          nextReader := e.nextReader + 1
          assigned := e.assigned.insert split.id readers[e.nextReader.toNat % readers.length] }
        (assignment.add readers[e.nextReader.toNat % readers.length] split)
      refine ⟨state, ?_, ?_⟩
      · intro id
        rw [assigned, OrderedMap.contains_insert, List.map_cons, List.mem_cons, Bool.or_eq_true,
          beq_iff_eq, or_left_comm, or_assoc]
      · refine handed.trans ?_
        exact ((Assignment.add_splits ..).append_left rest).trans List.perm_middle

end Enumerator

inductive Place where
  | pending
  | assigned
  | finished
  deriving DecidableEq

namespace Enumerator

def Holds (e : Enumerator) : Place → String → Prop
  | .pending, id => id ∈ e.state.pending.map Split.id
  | .assigned, id => e.assigned.contains id = true
  | .finished, id => id ∈ e.state.finished

instance (e : Enumerator) (place : Place) (id : String) : Decidable (e.Holds place id) :=
  match place with
  | .pending => inferInstanceAs (Decidable (id ∈ e.state.pending.map Split.id))
  | .assigned => inferInstanceAs (Decidable (e.assigned.contains id = true))
  | .finished => inferInstanceAs (Decidable (id ∈ e.state.finished.toList))

theorem holds_pending {e : Enumerator} {id : String} :
    e.Holds .pending id ↔ id ∈ e.state.pending.map Split.id := Iff.rfl

theorem holds_assigned {e : Enumerator} {id : String} :
    e.Holds .assigned id ↔ e.assigned.contains id = true := Iff.rfl

theorem holds_finished {e : Enumerator} {id : String} :
    e.Holds .finished id ↔ id ∈ e.state.finished := Iff.rfl

/-- What an operation does that may hand splits out: nothing to them, or all that wait go. -/
inductive Handout (e : Enumerator) : List Split → Enumerator → Prop
  | none {e' : Enumerator} : e'.state = e.state → e'.assigned = e.assigned → Handout e [] e'
  | all {e' : Enumerator} {splits : List Split} : e'.state = { e.state with pending := [] } →
      (∀ id, e'.Holds .assigned id ↔ e.Holds .pending id ∨ e.Holds .assigned id) →
      splits.Perm e.state.pending → Handout e splits e'

namespace Handout

variable {e e' : Enumerator} {splits : List Split}

theorem appended (h : e.Handout splits e') : e'.state.appended = e.state.appended := by
  cases h with
  | none state _ => rw [state]
  | all state _ _ => rw [state]

theorem finished (h : e.Handout splits e') : e'.state.finished = e.state.finished := by
  cases h with
  | none state _ => rw [state]
  | all state _ _ => rw [state]

theorem waited (h : e.Handout splits e') : ∀ split ∈ splits, e.Holds .pending split.id := by
  intro split member
  cases h with
  | none => exact nomatch member
  | all _ _ handed => exact List.mem_map_of_mem (handed.subset member)

end Handout

variable (e : Enumerator) (readers : Readers)

theorem assignPending_handout :
    e.Handout (handedOut (e.assignPending readers).2) (e.assignPending readers).1 := by
  rw [assignPending]
  split
  · rw [signal_handedOut]
    exact .none (e.signal_state readers) (e.signal_assigned readers)
  · next some =>
    have registered : readers.toList ≠ [] := by
      intro none
      simp [OrderedSet.isEmpty, none] at some
    obtain ⟨state, assigned, handed⟩ := deal_spec registered
      { e with state := { e.state with pending := [] } } ∅ e.state.pending
    cases dealt : deal readers.toList { e with state := { e.state with pending := [] } } ∅
      e.state.pending with
    | mk next assignment =>
        rw [dealt] at state assigned handed
        have nothing : (OrderedMap.values (∅ : Assignment)).flatten = [] := rfl
        rw [nothing, List.append_nil] at handed
        dsimp only
        refine .all ((next.signal_state readers).trans state) ?_ ?_
        · intro id
          rw [holds_assigned, signal_assigned]
          exact assigned id
        · have only : handedOut (.assign assignment :: (next.signal readers).2) =
              assignment.values.flatten ++ handedOut (next.signal readers).2 :=
            List.flatMap_cons ..
          rw [only, signal_handedOut, List.append_nil]
          exact handed

section TakeBack

variable (split : Split) (id : String)

@[simp] theorem takeBack_appended : (e.takeBack split).state.appended = e.state.appended := by
  rw [takeBack]
  dsimp only
  split <;> rfl

@[simp] theorem takeBack_finished : (e.takeBack split).state.finished = e.state.finished := by
  rw [takeBack]
  dsimp only
  split <;> rfl

theorem takeBack_assigned : (e.takeBack split).assigned = e.assigned.erase split.id := by
  rw [takeBack]
  dsimp only
  split <;> rfl

/-- A split that is taken back waits, unless it has finished or waits already. -/
theorem takeBack_pending : (e.takeBack split).state.pending =
    if e.Holds .finished split.id ∨ e.Holds .pending split.id then e.state.pending
    else e.state.pending ++ [split] := by
  have decided : (e.state.finished.contains split.id ||
      e.state.pending.any fun p => p.id = split.id) = true ↔
        e.Holds .finished split.id ∨ e.Holds .pending split.id := by
    rw [Bool.or_eq_true, OrderedSet.contains_iff, holds_finished, holds_pending, List.mem_map,
      List.any_eq_true]
    simp only [decide_eq_true_eq]
  rw [takeBack]
  dsimp only
  by_cases kept : e.Holds .finished split.id ∨ e.Holds .pending split.id
  · rw [if_pos kept, if_pos (decided.mpr kept)]
  · rw [if_neg kept, if_neg (mt decided.mp kept)]

theorem appended_foldl_takeBack (splits : List Split) :
    (splits.foldl takeBack e).state.appended = e.state.appended := by
  induction splits generalizing e with
  | nil => rfl
  | cons split rest ih => exact (ih (e.takeBack split)).trans (e.takeBack_appended split)

end TakeBack

theorem checkOpen_bind {α : Type} (next : Except Failure α) :
    (e.checkOpen >>= fun _ => next) =
      if e.lifecycle = .closed then .error .enumeratorClosed else next := by
  rw [checkOpen]
  split <;> rfl

section FinishSplits

variable {e : Enumerator} {ids : List String} {e' : Enumerator}

theorem finishSplits_eq (ended : e.finishSplits ids = .ok e') :
    e' = { e with
      assigned := e.assigned.filter fun id _ => !ids.contains id
      state := { e.state with
        finished := ids.foldl OrderedSet.insert e.state.finished
        pending := e.state.pending.filter fun split => !ids.contains split.id } } := by
  rw [finishSplits, checkOpen_bind] at ended
  split at ended
  · cases ended
  · exact (Except.ok.inj ended).symm

end FinishSplits

theorem conclude_finishes (e : Enumerator) (readers : Readers) (purpose : Purpose)
    (directives : List Directive) (outcome : Except Failure Unit) :
    ∃ e' told result, e.conclude readers purpose directives outcome = .finish e' told result := by
  unfold conclude
  split
  · cases outcome <;> exact ⟨_, _, _, rfl⟩
  · exact ⟨_, _, _, rfl⟩

/-- A discovery that ends changes nothing, unless it is the only one: then none is left to come. -/
theorem conclude_cases {e e' : Enumerator} {readers : Readers} {purpose : Purpose}
    {directives told : List Directive} {outcome result : Except Failure Unit}
    (ended : e.conclude readers purpose directives outcome = .finish e' told result) :
    e' = e ∧ told = directives ∨ e.period? = none ∧
      e' = ({ e with discoveryExhausted := true }.signal readers).1 ∧
      told = directives ++ ({ e with discoveryExhausted := true }.signal readers).2 := by
  unfold conclude at ended
  split at ended
  · next single =>
    cases outcome with
    | ok =>
        dsimp only at ended
        obtain ⟨rfl, rfl, _⟩ := Progress.finish.inj ended
        exact .inr ⟨single, rfl, rfl⟩
    | error failure =>
        cases ended
        exact .inl ⟨rfl, rfl⟩
  · cases ended
    exact .inl ⟨rfl, rfl⟩

/-- A discovery that ends says what it told before, and perhaps that no more splits come. -/
theorem conclude_finish {e e' : Enumerator} {readers : Readers} {purpose : Purpose}
    {directives told : List Directive} {outcome result : Except Failure Unit}
    (ended : e.conclude readers purpose directives outcome = .finish e' told result) :
    e'.state = e.state ∧ e'.assigned = e.assigned ∧ handedOut told = handedOut directives := by
  rcases conclude_cases ended with ⟨rfl, rfl⟩ | ⟨_, rfl, rfl⟩
  · exact ⟨rfl, rfl, rfl⟩
  · refine ⟨signal_state .., signal_assigned .., ?_⟩
    rw [handedOut_append, signal_handedOut, List.append_nil]

end Enumerator
end TopicFeed
