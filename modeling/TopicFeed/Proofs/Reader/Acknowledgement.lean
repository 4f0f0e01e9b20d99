import TopicFeed.Proofs.Reader.Transcript
/-! What an acknowledgement asks of the broker. Messages are acknowledged one by one, up to the
first that is not taken, or all at once through the greatest of them. -/
namespace TopicFeed

/-- The message that an acknowledgement names. -/
def Question.named? : Question → Option MessageId
  | .acknowledge _ id | .acknowledgeUpTo _ id => some id
  | _ => none

/-- An acknowledgement covers the message that it names and, if it is cumulative, all before it. -/
def Question.Covers : Question → MessageId → Prop
  | .acknowledge _ named, id => id = named
  | .acknowledgeUpTo _ named, id => (compare id named).isLE = true
  | _, _ => False

theorem Question.covers_of_named {q : Question} {id : MessageId} (named : q.named? = some id) :
    q.Covers id := by
  cases q with
  | acknowledge consumer other =>
      cases named
      rfl
  | acknowledgeUpTo consumer other =>
      cases named
      simp [Covers, Std.ReflCmp.compare_self]
  | _ => exact nomatch named

/-- Nothing beyond the message that it names is covered. -/
theorem Question.Covers.isLE {q : Question} {id named : MessageId} (covers : q.Covers id)
    (names : q.named? = some named) : (compare id named).isLE = true := by
  cases q with
  | acknowledge consumer other =>
      cases names
      obtain rfl : id = named := covers
      simp [Std.ReflCmp.compare_self]
  | acknowledgeUpTo consumer other =>
      cases names
      exact covers
  | _ => exact nomatch names

namespace Transcript

/-- Whether the broker took an acknowledgement. -/
def isTaken : (q : Question) × q.Reply → Bool
  | ⟨.acknowledge _ _, reply⟩ => reply.isOk
  | ⟨.acknowledgeUpTo _ _, reply⟩ => reply.isOk
  | _ => false

def taken (t : Transcript) : Transcript := t.filter isTaken

/-- The messages that the taken acknowledgements name. -/
def acknowledged (t : Transcript) : List MessageId := t.taken.filterMap fun e => e.1.named?

/-- An acknowledgement that was taken covers the message. -/
def Acknowledges (t : Transcript) (id : MessageId) : Prop := ∃ e ∈ t.taken, e.1.Covers id

@[simp] theorem taken_append (t u : Transcript) : (t ++ u).taken = t.taken ++ u.taken :=
  List.filter_append ..

@[simp] theorem acknowledged_append (t u : Transcript) :
    (t ++ u).acknowledged = t.acknowledged ++ u.acknowledged := by
  rw [acknowledged, taken_append, List.filterMap_append]
  rfl

@[simp] theorem acknowledges_append {t u : Transcript} {id : MessageId} :
    (t ++ u).Acknowledges id ↔ t.Acknowledges id ∨ u.Acknowledges id := by
  simp only [Acknowledges, taken_append, List.mem_append, or_and_right, exists_or]

theorem acknowledges_of_mem {t : Transcript} {id : MessageId} (member : id ∈ t.acknowledged) :
    t.Acknowledges id := by
  obtain ⟨e, taken, named⟩ := List.mem_filterMap.mp member
  exact ⟨e, taken, Question.covers_of_named named⟩

end Transcript

/-- What came of asking to acknowledge some messages, with those that are left. -/
structure Acknowledgement (strategy : AckStrategy) (ids : List MessageId) (asked : Transcript)
    (left : List MessageId) : Prop where
  names : ∀ e ∈ asked, ∃ id ∈ ids, e.1.named? = some id
  within : left ⊆ ids
  settles : ∀ id ∈ ids, asked.Acknowledges id ∨ id ∈ left
  each : strategy = .individual → asked.acknowledged ++ left = ids

namespace Acknowledger

open Dialogue

/-- The messages that an outcome leaves. -/
def leftBy : Except (List MessageId × Failure) Unit → List MessageId
  | .ok _ => []
  | .error (left, _) => left

variable {t : Transcript} {outcome : Except (List MessageId × Failure) Unit}

theorem acknowledgeEach_spec {splitId : String} {consumer : ConsumerId} {ids : List MessageId}
    (h : (acknowledgeEach splitId consumer ids).Yields t outcome) :
    (∀ e ∈ t, ∃ id ∈ ids, e.1.named? = some id) ∧ t.acknowledged ++ leftBy outcome = ids := by
  induction ids generalizing t with
  | nil =>
      obtain ⟨rfl, rfl⟩ := yields_done.mp h
      exact ⟨List.forall_mem_nil _, rfl⟩
  | cons id rest ih =>
      obtain ⟨reply, later, rfl, next⟩ := yields_ask.mp h
      cases reply with
      | error cause =>
          obtain ⟨rfl, rfl⟩ := yields_done.mp next
          exact ⟨List.forall_mem_singleton.mpr ⟨id, List.mem_cons_self, rfl⟩, rfl⟩
      | ok =>
          obtain ⟨names, whole⟩ := ih next
          refine ⟨List.forall_mem_cons.mpr ⟨⟨id, List.mem_cons_self, rfl⟩, ?_⟩, ?_⟩
          · intro e member
            obtain ⟨other, among, named⟩ := names e member
            exact ⟨other, List.mem_cons_of_mem id among, named⟩
          · exact congrArg (id :: ·) whole

theorem acknowledge_spec {a : Acknowledger} {consumer : ConsumerId} {ids : List MessageId}
    (h : (a.acknowledge consumer ids).Yields t outcome) :
    Acknowledgement a.strategy ids t (leftBy outcome) := by
  rw [acknowledge] at h
  split at h
  · obtain ⟨names, whole⟩ := acknowledgeEach_spec h
    refine ⟨names, ?_, ?_, fun _ => whole⟩
    · rw [← whole]
      exact List.subset_append_right ..
    · intro id member
      rw [← whole] at member
      exact (List.mem_append.mp member).imp_left Transcript.acknowledges_of_mem
  · next cumulative =>
    have never : a.strategy ≠ .individual := by simp [cumulative]
    cases ids with
    | nil =>
        obtain ⟨rfl, rfl⟩ := yields_done.mp h
        exact ⟨List.forall_mem_nil _, List.nil_subset _, List.forall_mem_nil _, fun _ => rfl⟩
    | cons id rest =>
        obtain ⟨last, among, greatest, above⟩ := MessageId.greatest?_cons id rest
        simp only [greatest] at h
        obtain ⟨reply, later, rfl, next⟩ := yields_ask.mp h
        cases reply with
        | error cause =>
            obtain ⟨rfl, rfl⟩ := yields_done.mp next
            exact ⟨List.forall_mem_singleton.mpr ⟨last, among, rfl⟩, List.Subset.refl _,
              fun _ => .inr, fun individual => absurd individual never⟩
        | ok =>
            obtain ⟨rfl, rfl⟩ := yields_done.mp next
            refine ⟨List.forall_mem_singleton.mpr ⟨last, among, rfl⟩, List.nil_subset _, ?_,
              fun individual => absurd individual never⟩
            intro other member
            exact .inl ⟨_, List.mem_cons_self, above other member⟩

end Acknowledger
end TopicFeed
