/-! Runs of a labelled step relation. -/
namespace TopicFeed

/-- Steps one after the other, each with its label. -/
inductive Runs {σ κ : Type} (step : σ → κ → σ → Prop) : σ → List κ → σ → Prop
  | nil (s : σ) : Runs step s [] s
  | cons {s t u : σ} {k : κ} {ks : List κ} :
      step s k t → Runs step t ks u → Runs step s (k :: ks) u

namespace Runs

variable {σ τ κ : Type} {step : σ → κ → σ → Prop} {s t u : σ} {ks ls : List κ}

theorem append_iff : Runs step s (ks ++ ls) u ↔ ∃ t, Runs step s ks t ∧ Runs step t ls u := by
  induction ks generalizing s with
  | nil =>
      constructor
      · exact fun h => ⟨s, .nil s, h⟩
      · rintro ⟨_, ⟨⟩, h⟩
        exact h
  | cons k ks ih =>
      constructor
      · intro h
        cases h with
        | cons first rest =>
            obtain ⟨t, before, after⟩ := ih.mp rest
            exact ⟨t, .cons first before, after⟩
      · rintro ⟨t, before, after⟩
        cases before with
        | cons first rest => exact .cons first (ih.mpr ⟨t, rest, after⟩)

theorem append (first : Runs step s ks t) (second : Runs step t ls u) :
    Runs step s (ks ++ ls) u := append_iff.mpr ⟨t, first, second⟩

theorem concat_iff {k : κ} : Runs step s (ks ++ [k]) u ↔ ∃ t, Runs step s ks t ∧ step t k u := by
  constructor
  · intro run
    obtain ⟨t, before, last⟩ := append_iff.mp run
    cases last with
    | cons here rest =>
        cases rest
        exact ⟨t, before, here⟩
  · rintro ⟨t, before, here⟩
    exact before.append (.cons here (.nil u))

theorem step_at {k : κ} (run : Runs step s (ks ++ k :: ls) u) :
    ∃ t t', Runs step s ks t ∧ step t k t' := by
  obtain ⟨t, before, rest⟩ := append_iff.mp run
  cases rest with
  | cons here _ => exact ⟨t, _, before, here⟩

theorem labels {P : κ → Prop} (run : Runs step s ks u) (each : ∀ {s k t}, step s k t → P k) :
    ∀ k ∈ ks, P k := by
  induction run with
  | nil => exact List.forall_mem_nil _
  | cons first _ ih => exact List.forall_mem_cons.mpr ⟨each first, ih⟩

/-- What holds of a state and the labels that led to it, when each step keeps it. -/
theorem traced {P : List κ → σ → Prop} (run : Runs step s ks u) (start : P [] s)
    (kept : ∀ before k after t t', ks = before ++ k :: after → P before t → step t k t' →
      P (before ++ [k]) t') : P ks u := by
  suffices later : ∀ {s ls u before}, Runs step s ls u → ks = before ++ ls → P before s → P ks u
    from later run rfl start
  intro s ls u before run whole here
  induction run generalizing before with
  | nil =>
      rw [whole, List.append_nil]
      exact here
  | cons first _ ih =>
      have moved := kept before _ _ _ _ whole here first
      exact ih (by rw [whole, List.append_assoc, List.singleton_append]) moved

/-- States of one form stay of this form, and step as their contents do. -/
theorem of_form {inner : τ → κ → τ → Prop} {form : τ → σ}
    (lower : ∀ x k s, step (form x) k s → ∃ y, s = form y ∧ inner x k y) {x : τ}
    (run : Runs step (form x) ks s) : ∃ y, s = form y ∧ Runs inner x ks y := by
  generalize start : form x = s₀ at run
  induction run generalizing x with
  | nil => exact ⟨x, start.symm, .nil x⟩
  | cons first _ ih =>
      subst start
      obtain ⟨y, rfl, moved⟩ := lower x _ _ first
      obtain ⟨z, same, rest⟩ := ih rfl
      exact ⟨z, same, .cons moved rest⟩

end Runs
end TopicFeed
