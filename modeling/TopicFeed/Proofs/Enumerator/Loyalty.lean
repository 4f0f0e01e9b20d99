import TopicFeed.Proofs.Enumerator.Ownership
/-! Returns of splits. An enumerator takes a split back from whoever returns it, so it keeps the
splits for their owners exactly if nobody returns a split that belongs to another reader. -/
namespace TopicFeed

namespace History

/-- No return takes a split from another reader. -/
def KeepsOwners (h : History) : Prop :=
  ∀ before c event next after, h.Passes before c event next after →
    c.KeepsOwners event.operation next

/-- Each reader returns only splits of its own, or such that belong to nobody. -/
def Loyal (h : History) : Prop :=
  ∀ before event after, h.events = before ++ event :: after → event.Loyal before

/-- Nobody gets a split in a turn that belongs to another reader or that another one gets. -/
def Exclusive (h : History) : Prop :=
  ∀ before event after, h.events = before ++ event :: after → ∀ reader,
    ∀ split ∈ event.handedTo reader, ∀ other,
      Owns before other split.id ∨ split.id ∈ (event.handedTo other).map Split.id → other = reader

/-- Only splits are returned that the enumerator was made with or has handed out. -/
def ReturnsKnown (h : History) : Prop :=
  ∀ before event after, h.events = before ++ event :: after → ∀ split ∈ event.operation.returned,
    h.state.Knows split.id ∨ ∃ earlier ∈ before, ∃ out ∈ earlier.handed, out.id = split.id

theorem Orderly.returnsKnown {h : History} (orderly : h.Orderly) : h.ReturnsKnown :=
  fun _ _ _ whole _ back => .inr (orderly.reported whole _ (Operation.reported_of_returned back))

variable {h : History}

section Custody

variable (tidy : h.state.Tidy) (known : h.ReturnsKnown)
  (distinct : h.current.enumerator.state.Distinct)

include tidy known distinct

theorem custody (loyal : ∀ before c event next after, h.Passes before c event next after →
      c.Custody before → event.Loyal before)
    {before after : List Event} {c : Coordinator} (whole : h.events = before ++ after)
    (past : Runs Coordinator.Step (.ofState h.options h.state) before c)
    (future : Runs Coordinator.Step c after h.current) : c.Custody before := by
  -- the last turn comes first, since whether it is loyal is said of the record before it
  induction before using List.reverseRecOn generalizing c after with
  | nil =>
      cases past
      have nobody (id : String) (reader : UInt32) :
          (OrderedMap.empty : OrderedMap String UInt32).get? id ≠ some reader := nofun
      refine ⟨⟨tidy, ?_, ?_⟩, ?_, List.forall_mem_nil _⟩
      · exact fun id holds => nomatch holds
      · exact fun id holds => nomatch holds
      · exact fun id reader => iff_of_false (nobody id reader) (not_owns_nil reader id)
  | append_singleton before event ih =>
      obtain ⟨middle, past, step⟩ := Runs.concat_iff.mp past
      rw [List.append_assoc, List.singleton_append] at whole
      have custody := ih whole past (.cons step future)
      have loyal := loyal before middle event c after ⟨whole, past, step, future⟩ custody
      have distinct := distinct.mono (Coordinator.appended_subset_of_runs future)
      have known : ∀ split ∈ event.operation.returned, middle.enumerator.state.Knows split.id := by
        intro split back
        rcases known before event after whole split back with
          start | ⟨earlier, early, out, gone, same⟩
        · exact start.mono (Coordinator.appended_subset_of_runs past)
        · exact same ▸ custody.handed earlier early out gone
      cases step with
      | perform operation readers => exact custody.perform known distinct loyal

theorem exclusive (loyal : h.Loyal) : h.Exclusive := by
  intro before event after whole reader split gets other taken
  obtain ⟨c, next, passes⟩ := passes_of_split whole
  have loyal before c event next after (passes : h.Passes before c event next after)
      (_ : c.Custody before) : event.Loyal before := loyal before event after passes.whole
  have custody := h.custody tidy known distinct loyal whole passes.past
    (.cons passes.step passes.future)
  have later : next.Custody (before ++ [event]) := by
    have past := Runs.concat_iff.mpr ⟨c, passes.past, passes.step⟩
    refine h.custody tidy known distinct loyal ?_ past passes.future
    rw [whole, List.append_assoc, List.singleton_append]
  have distinct := distinct.mono (Coordinator.appended_subset_of_runs passes.future)
  have here := (later.ledger split.id reader).mpr
    (owns_concat.mpr (.inl (List.mem_map_of_mem gets)))
  rcases taken with owns | also
  · cases passes.step with
    | perform operation readers =>
        exact absurd owns (custody.not_owns distinct split (Event.handedTo_subset _ _ gets) other)
  · have there := (later.ledger split.id other).mpr (owns_concat.mpr (.inl also))
    exact Option.some.inj (there.symm.trans here)

/-- The splits of other readers stay with them when splits are returned, exactly if readers return
only what belongs to no other reader; and then nobody gets a split that belongs to another. -/
theorem keepsOwners_iff : (h.KeepsOwners ↔ h.Loyal) ∧ (h.Loyal → h.Exclusive) := by
  refine ⟨⟨fun keeps => ?_, fun loyal => ?_⟩, h.exclusive tidy known distinct⟩
  · have loyal before c event next after (passes : h.Passes before c event next after)
        (custody : c.Custody before) : event.Loyal before := by
      have keeps := keeps before c event next after passes
      cases passes.step with
      | perform operation readers => exact custody.loyal keeps
    intro before event after whole
    obtain ⟨c, next, passes⟩ := passes_of_split whole
    refine loyal before c event next after passes ?_
    exact h.custody tidy known distinct loyal whole passes.past (.cons passes.step passes.future)
  · intro before c event next after passes
    have custody := h.custody tidy known distinct
      (fun before c event next after passes _ => loyal before event after passes.whole)
      passes.whole passes.past (.cons passes.step passes.future)
    have loyal := loyal before event after passes.whole
    cases passes.step with
    | perform operation readers => exact custody.keepsOwners loyal

end Custody

end History

namespace Sample

/-- Two readers have a split each, and one of them returns its own. -/
def surrendered : History := .play history.options .empty <|
  (.start 1, .ofList [0, 1]) :: List.replicate 5 (.discovery 0 broker, .ofList [0, 1]) ++
    [(.addSplitsBack [dealt 0] 0, .ofList [0, 1])]

/-- A reader returns its split, which is dealt to another one. -/
def reassigned : History := .play history.options .empty <|
  (.start 1, .ofList [0, 1]) :: List.replicate 4 (discovering 1 [0, 1]) ++
    [(.addSplitsBack [dealt 0] 0, .ofList [0, 1]), (.requestSplit, .ofList [0, 1])]

/-- The first reader returns it once more, after that. -/
def belated : History := reassigned.extend <|
  .cons (.perform (.addSplitsBack [dealt 0] 0) (.ofList [0, 1])) <|
  .cons (.perform .requestSplit (.ofList [0, 1])) <| .nil _

end Sample

namespace History

theorem loyal_surrendered : Sample.surrendered.Loyal := by
  rintro before event after whole reader id ⟨_, splits, same, back⟩ other
    ⟨earlier, handing, later, rfl, gets, _⟩
  have operations : Sample.surrendered.events.map Event.operation =
      .start 1 :: List.replicate 5 (.discovery 0 Sample.broker) ++
        [.addSplitsBack [Sample.dealt 0] 0] := rfl
  have event_mem : event ∈ Sample.surrendered.events := by
    rw [whole]
    simp
  have handing_mem : handing ∈ Sample.surrendered.events := by
    rw [whole]
    simp
  have returned := List.mem_map_of_mem (f := Event.operation) event_mem
  rw [operations, same] at returned
  obtain ⟨rfl, rfl⟩ : splits = [Sample.dealt 0] ∧ reader = 0 := by
    simpa using returned
  have run : ∀ event ∈ Sample.surrendered.events, event.readers = .ofList [0, 1] ∧
      (Sample.dealt 0).id ∉ (event.handedTo 1).map Split.id := by
    decide +kernel
  obtain ⟨readers, never⟩ := run handing handing_mem
  obtain rfl := List.mem_singleton.mp back
  obtain ⟨split, got, _⟩ := List.mem_map.mp gets
  have registered := Sample.surrendered.registered handing_mem got
  rw [readers, OrderedSet.mem_ofList, List.mem_cons, List.mem_singleton] at registered
  rcases registered with rfl | rfl
  · rfl
  · exact absurd gets never

theorem keepsOwners_iff_surrendered :
    Sample.surrendered.current.enumerator.assigned.get? (Sample.dealt 1).id = some 1 ∧
      Sample.surrendered.current.enumerator.Holds .pending (Sample.dealt 0).id ∧
      Sample.surrendered.KeepsOwners ∧ Sample.surrendered.Exclusive := by
  have tidy : Sample.surrendered.state.Tidy := ⟨List.nodup_nil, List.forall_mem_nil _⟩
  have run : Sample.surrendered.Orderly ∧
      Sample.surrendered.current.enumerator.state.Distinct ∧
      Sample.surrendered.current.enumerator.assigned.get? (Sample.dealt 1).id = some 1 ∧
      Sample.surrendered.current.enumerator.Holds .pending (Sample.dealt 0).id := by
    decide +kernel
  obtain ⟨orderly, distinct, assigned, pending⟩ := run
  obtain ⟨keeps, exclusive⟩ := keepsOwners_iff tidy orderly.returnsKnown distinct
  exact ⟨assigned, pending, keeps.mpr loyal_surrendered, exclusive loyal_surrendered⟩

theorem not_keepsOwners_belated : Sample.belated.Orderly ∧
    ¬Sample.belated.KeepsOwners ∧ ¬Sample.belated.Exclusive := by
  refine ⟨by decide +kernel, ?_, ?_⟩
  · intro keeps
    have passes : Sample.belated.Passes Sample.reassigned.events Sample.reassigned.current _ _ _ :=
      ⟨rfl, Sample.reassigned.runs, .perform _ _, .cons (.perform _ _) (.nil _)⟩
    have kept := keeps _ _ _ _ _ passes [Sample.dealt 0] 0 rfl (Sample.dealt 0).id 1 (by decide)
      (by decide +kernel)
    exact absurd kept.1 (by decide +kernel)
  · intro exclusive
    have whole : Sample.belated.events = (Sample.reassigned.events ++ [_]) ++ [_] := rfl
    have only := exclusive _ _ _ whole 0 (Sample.dealt 0) (by decide +kernel) 1
    refine absurd (only (.inl (owns_concat.mpr (.inr ⟨?owns, ?_, ?_, ?_⟩)))) (by decide)
    case owns =>
      exact ⟨Sample.reassigned.events.take 6, _, [], rfl, by decide +kernel, List.forall_mem_nil _⟩
    · decide +kernel
    · rintro ⟨_, splits, same, _⟩
      exact absurd (Operation.addSplitsBack.inj same).2 (by decide)
    · rintro ⟨_, ids, same, _⟩
      cases same

end History
end TopicFeed
