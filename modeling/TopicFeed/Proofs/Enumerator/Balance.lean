import TopicFeed.Proofs.Enumerator.Dealing
import TopicFeed.Proofs.Enumerator.Restore
/-! Balance. While the same readers are registered, none of them gets more splits than its turns,
over all that is handed out and not only within one turn. -/
namespace TopicFeed

namespace Enumerator

/-- All splits handed out so far went to the readers in turn, and the turns were counted. -/
structure Served (readers : List UInt32) (before : List Event) (e : Enumerator) : Prop where
  counted : e.nextReader.toNat = (before.flatMap Event.handed).length
  shares : ∀ r, (before.flatMap (Event.handedTo r)).length =
    (inTurn readers 0 (before.flatMap Event.handed).length).count r

variable {e e' : Enumerator} {before : List Event} {event : Event}

theorem Change.served (change : e.Change event.readers event.operation event.directives e')
    (served : e.Served event.readers.toList before)
    (few : ((before ++ [event]).flatMap Event.handed).length < 2 ^ 64) :
    e'.Served event.readers.toList (before ++ [event]) := by
  have total : ((before ++ [event]).flatMap Event.handed).length =
      (before.flatMap Event.handed).length + event.handed.length := by
    rw [List.flatMap_append, List.flatMap_singleton, List.length_append]
  have got (r : UInt32) : ((before ++ [event]).flatMap (Event.handedTo r)).length =
      (before.flatMap (Event.handedTo r)).length + (event.handedTo r).length := by
    rw [List.flatMap_append, List.flatMap_singleton, List.length_append]
  rw [total] at few
  by_cases gives : event.operation.GivesUp
  · obtain ⟨untold, next⟩ := change.untold gives
    rw [event.handed_of_untold untold, List.length_nil, Nat.add_zero] at total
    constructor
    · rw [next, total, served.counted]
    · intro r
      rw [got, event.handedTo_of_untold untold, total]
      exact served.shares r
  · obtain ⟨fresh, _, dealing⟩ := change.dealing gives
    obtain ⟨owners, splits, dealt, _, perm, shares⟩ := dealing.dealt
    have size : event.handed.length = splits.length := perm.length_eq
    obtain ⟨order, next⟩ := dealt.turns (by rw [served.counted, ← size]; exact few)
    constructor
    · rw [next, total, served.counted, size]
    · intro r
      have part : (event.handedTo r).length = owners.count r := by
        rw [Event.handedTo, shares, length_sharesOf dealt.each]
      rw [got, part, total, inTurn_add, List.count_append, served.shares, order, served.counted,
        Nat.zero_add, size]

end Enumerator

namespace Event

/-- A turn hands out all splits that wait by the time, each to one reader that is registered, and
then tells some readers at most that no more come. -/
structure DealsAll (event : Event) (assignment : Assignment) (waiting : List Split)
    (owners : List UInt32) (left : List Split) : Prop where
  alone : ∃ told : List UInt32, event.directives = .assign assignment :: told.map .noMoreSplits
  each : owners.length = waiting.length
  registered : ∀ r ∈ owners, r ∈ event.readers
  shares : ∀ r, assignment.splitsOf r = sharesOf owners waiting r
  nothing : left = []

end Event

theorem Enumerator.Change.dealsAll {e e' : Enumerator} {event : Event} {assignment : Assignment}
    (change : e.Change event.readers event.operation event.directives e')
    (assigns : .assign assignment ∈ event.directives) :
    ∃ fresh owners, e.state.Grown fresh e'.state ∧
      event.DealsAll assignment (e.state.pending ++ fresh) owners e'.state.pending := by
  have alone : ¬event.operation.GivesUp := by
    intro gives
    rw [(change.untold gives).1] at assigns
    exact nomatch assigns
  have signals (told : List UInt32) : .assign assignment ∉ told.map Directive.noMoreSplits := by
    intro member
    obtain ⟨_, _, same⟩ := List.mem_map.mp member
    exact nomatch same
  obtain ⟨fresh, grown, dealing⟩ := change.dealing alone
  generalize directives : event.directives = told at dealing assigns
  cases dealing with
  | none => exact absurd assigns (signals _)
  | all dealt shares _ pending =>
      rcases List.mem_cons.mp assigns with same | later
      · cases same
        refine ⟨fresh, _, grown, ⟨_, directives⟩, dealt.each, dealt.registered, shares, pending⟩
      · exact absurd later (signals _)

namespace History

theorem served (h : History) {readers : Readers}
    (fixed : ∀ event ∈ h.events, event.readers = readers) (few : h.handed.length < 2 ^ 64)
    {before after : List Event} (whole : h.events = before ++ after) :
    ∃ e : Enumerator, e.Served readers.toList before := by
  have runs := h.runs
  rw [whole] at runs
  obtain ⟨c, first, _⟩ := Runs.append_iff.mp runs
  refine ⟨c.enumerator, ?_⟩
  apply first.traced (P := fun before c => c.enumerator.Served readers.toList before)
  · exact ⟨rfl, fun _ => rfl⟩
  · rintro earlier event later c c' split served step
    have same : event.readers = readers := fixed event (by rw [whole, split]; simp)
    have fits : ((earlier ++ [event]).flatMap Event.handed).length < 2 ^ 64 := by
      refine Nat.lt_of_le_of_lt ?_ few
      rw [handed, whole, split]
      simp only [List.flatMap_append, List.flatMap_cons, List.flatMap_nil, List.length_append,
        List.length_nil]
      omega
    cases step with
    | perform operation readers' =>
        have change := c.perform_change readers' operation
        rw [← same] at served ⊢
        exact change.served served fits

/-- Of two registered readers, neither ever got two splits more than the other, and whatever is
assigned is all that waits by then, each split to one of the readers. -/
theorem balanced (h : History) {readers : Readers}
    (fixed : ∀ event ∈ h.events, event.readers = readers) (few : h.handed.length < 2 ^ 64) :
    (∀ before after, h.events = before ++ after → ∀ r ∈ readers, ∀ r' ∈ readers,
      (before.flatMap (Event.handedTo r)).length ≤
        (before.flatMap (Event.handedTo r')).length + 1) ∧
    ∀ before c event next after, h.Passes before c event next after →
      ∀ assignment, .assign assignment ∈ event.directives →
        ∃ fresh owners, c.enumerator.state.Grown fresh next.enumerator.state ∧
          event.DealsAll assignment (c.enumerator.state.pending ++ fresh) owners
            next.enumerator.state.pending := by
  constructor
  · intro before after whole r here r' there
    obtain ⟨_, served⟩ := h.served fixed few whole
    rw [served.shares, served.shares]
    exact count_inTurn_le readers.nodup_toList here there 0 _
  · intro before c event next after passes assignment assigns
    cases passes.step with
    | perform operation readers' =>
        exact Enumerator.Change.dealsAll (c.perform_change readers' operation) assigns

theorem balanced_redealt :
    (∀ event ∈ Sample.redealt.events, event.readers = .ofList [0, 1]) ∧
      Sample.redealt.handed.length < 2 ^ 64 ∧
      (Sample.redealt.events.flatMap (Event.handedTo 0)).length = 2 ∧
      (Sample.redealt.events.flatMap (Event.handedTo 0)).length ≤
        (Sample.redealt.events.flatMap (Event.handedTo 1)).length + 1 := by
  have fixed : ∀ event ∈ Sample.redealt.events, event.readers = .ofList [0, 1] := by
    decide +kernel
  have few : Sample.redealt.handed.length < 2 ^ 64 := by
    decide +kernel
  have even := (Sample.redealt.balanced fixed few).1 _ [] (List.append_nil _).symm
  have first : 0 ∈ OrderedSet.ofList [(0 : UInt32), 1] := OrderedSet.mem_ofList.mpr (by decide)
  have second : 1 ∈ OrderedSet.ofList [(0 : UInt32), 1] := OrderedSet.mem_ofList.mpr (by decide)
  exact ⟨fixed, few, by decide +kernel, even 0 first 1 second⟩

end History
end TopicFeed
