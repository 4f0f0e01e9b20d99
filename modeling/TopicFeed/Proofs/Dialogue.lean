import TopicFeed.Dialogue
/-! Dialogues by their transcripts. A dialogue may be held in many ways, one for each list of
replies; a statement about all transcripts is a statement about every outside. -/
namespace TopicFeed
namespace Dialogue

variable {Q : Type} {Reply : Q → Type} {α β : Type}

/-- Questions in the order they were asked, each with the reply it got. -/
abbrev Transcript (Reply : Q → Type) := List ((q : Q) × Reply q)

/-- With these replies the dialogue ends in this result. -/
inductive Yields : Dialogue Reply α → Transcript Reply → α → Prop
  | done (a : α) : Yields (.done a) [] a
  | ask {q : Q} {next : Reply q → Dialogue Reply α} {reply : Reply q} {t : Transcript Reply}
      {a : α} : Yields (next reply) t a → Yields (.ask q next) (⟨q, reply⟩ :: t) a

@[simp] theorem yields_done {a b : α} {t : Transcript Reply} :
    (Dialogue.done a).Yields t b ↔ t = [] ∧ b = a := by
  constructor
  · intro h
    cases h
    exact ⟨rfl, rfl⟩
  · rintro ⟨rfl, rfl⟩
    exact .done b

@[simp] theorem yields_ask {q : Q} {next : Reply q → Dialogue Reply α} {t : Transcript Reply}
    {a : α} : (Dialogue.ask q next).Yields t a ↔
      ∃ reply rest, t = ⟨q, reply⟩ :: rest ∧ (next reply).Yields rest a := by
  constructor
  · intro h
    cases h with
    | ask h => exact ⟨_, _, rfl, h⟩
  · rintro ⟨reply, rest, rfl, h⟩
    exact .ask h

/-- A transcript of two dialogues, one after the other, splits where the first ends. -/
theorem yields_bind {d : Dialogue Reply α} {f : α → Dialogue Reply β} {t : Transcript Reply}
    {b : β} : (d.bind f).Yields t b ↔
      ∃ a first rest, t = first ++ rest ∧ d.Yields first a ∧ (f a).Yields rest b := by
  induction d generalizing t with
  | done a =>
      simp only [pure_bind, yields_done]
      constructor
      · exact fun h => ⟨a, [], t, rfl, ⟨rfl, rfl⟩, h⟩
      · rintro ⟨_, _, rest, rfl, ⟨rfl, rfl⟩, h⟩
        exact h
  | ask q next ih =>
      simp only [ask_bind, yields_ask, ih]
      constructor
      · rintro ⟨reply, _, rfl, a, first, rest, rfl, hd, hf⟩
        exact ⟨a, ⟨q, reply⟩ :: first, rest, rfl, ⟨reply, first, rfl, hd⟩, hf⟩
      · rintro ⟨a, _, rest, rfl, ⟨reply, first, rfl, hd⟩, hf⟩
        exact ⟨reply, first ++ rest, rfl, a, first, rest, rfl, hd, hf⟩

/-- After a transcript of the first dialogue, two dialogues in a row go on as the second. -/
theorem yields_bind_append {d : Dialogue Reply α} {f : α → Dialogue Reply β}
    {first rest : Transcript Reply} {a : α} {b : β} (h : d.Yields first a) :
    (d.bind f).Yields (first ++ rest) b ↔ (f a).Yields rest b := by
  induction h with
  | done a => rfl
  | @ask q next reply t a _ ih =>
      rw [ask_bind, List.cons_append, yields_ask, ← ih]
      constructor
      · rintro ⟨_, _, same, later⟩
        cases same
        exact later
      · exact fun later => ⟨reply, t ++ rest, rfl, later⟩

@[simp] theorem bind_eq (d : Dialogue Reply α) (f : α → Dialogue Reply β) :
    d >>= f = d.bind f := rfl

section Against

variable (reply : (q : Q) → Reply q)

/-- What a dialogue comes to if the same question always gets the same reply. -/
def against (d : Dialogue Reply α) : α := Id.run (d.interpret reply)

@[simp] theorem against_ask (q : Q) (next : Reply q → Dialogue Reply α) :
    (Dialogue.ask q next).against reply = (next (reply q)).against reply := rfl

@[simp] theorem against_bind (d : Dialogue Reply α) (f : α → Dialogue Reply β) :
    (d.bind f).against reply = (f (d.against reply)).against reply := by
  induction d with
  | done a => rfl
  | ask q next ih => exact ih (reply q)

/-- There is a transcript with these replies and no others. -/
theorem yields_against (d : Dialogue Reply α) :
    ∃ t, d.Yields t (d.against reply) ∧ ∀ e ∈ t, e.2 = reply e.1 := by
  induction d with
  | done a => exact ⟨[], .done a, List.forall_mem_nil _⟩
  | ask q next ih =>
      obtain ⟨t, yields, replied⟩ := ih (reply q)
      exact ⟨⟨q, reply q⟩ :: t, .ask yields, List.forall_mem_cons.mpr ⟨rfl, replied⟩⟩

end Against

/-- Whatever the replies, only such questions are asked, and such a result is reached. -/
def Meets (asks : Q → Prop) (ends : α → Prop) : Dialogue Reply α → Prop
  | .done a => ends a
  | .ask q next => asks q ∧ ∀ reply, (next reply).Meets asks ends

namespace Meets

variable {asks : Q → Prop} {ends : α → Prop} {d : Dialogue Reply α}

theorem bind {ends' : β → Prop} {f : α → Dialogue Reply β} (first : d.Meets asks ends)
    (next : ∀ a, ends a → (f a).Meets asks ends') : (d.bind f).Meets asks ends' := by
  induction d with
  | done a => exact next a first
  | ask q inner ih => exact ⟨first.1, fun reply => ih reply (first.2 reply)⟩

theorem mono {asks' : Q → Prop} (meets : d.Meets asks ends) (more : ∀ q, asks q → asks' q) :
    d.Meets asks' ends := by
  induction d with
  | done a => exact meets
  | ask q next ih => exact ⟨more q meets.1, fun reply => ih reply (meets.2 reply)⟩

/-- Every dialogue meets what asks for nothing. -/
theorem any (d : Dialogue Reply α) : d.Meets (fun _ => True) fun _ => True := by
  induction d with
  | done a => exact trivial
  | ask q next ih => exact ⟨trivial, ih⟩

theorem yields {t : Transcript Reply} {a : α} (meets : d.Meets asks ends) (h : d.Yields t a) :
    (∀ e ∈ t, asks e.1) ∧ ends a := by
  induction h with
  | done a => exact ⟨List.forall_mem_nil _, meets⟩
  | ask _ ih =>
      obtain ⟨asked, next⟩ := meets
      obtain ⟨others, result⟩ := ih (next _)
      exact ⟨List.forall_mem_cons.mpr ⟨asked, others⟩, result⟩

end Meets
end Dialogue
end TopicFeed
