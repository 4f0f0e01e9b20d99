import TopicFeed.Proofs.Reader.Session
/-! Logs and the consumers that deliver them. A consumer stands at a place of the log; a seek moves
it, and a message that is received moves it one on. A log is the whole of what is ever written to a
partition, so it may have been shorter when a message of it was received. -/
namespace TopicFeed

/-- All the messages of a partition, with ascending ids. -/
structure PartitionLog where
  messages : List Message
  ascends : messages.Pairwise fun earlier later => compare earlier.id later.id = .lt

namespace PartitionLog

variable (log : PartitionLog)

/-- A seek to an id leads to the first message there, or after it. -/
structure Honours (land : Position → Nat) : Prop where
  inclusive : ∀ id, land (.message id true) =
    log.messages.findIdx fun m => (compare m.id id).isGE
  exclusive : ∀ id, land (.message id false) =
    log.messages.findIdx fun m => compare m.id id == .gt

/-- Where a question leaves a consumer that stands at a place. -/
def moved (land : Position → Nat) (place : Nat) : (q : Question) × q.Reply → Nat
  | ⟨.seek _ position, .ok ()⟩ => land position
  | ⟨.receive _ _, .message _⟩ => place + 1
  | _ => place

/-- The messages of a transcript are those of the log, from place to place. -/
def Delivers (land : Position → Nat) : Nat → Transcript → Prop
  | _, [] => True
  | place, e :: rest => (∀ m ∈ Transcript.messageOf e, log.messages[place]? = some m) ∧
      Delivers land (moved land place e) rest

instance Delivers.decidable (land : Position → Nat) :
    ∀ place t, Decidable (log.Delivers land place t)
  | _, [] => isTrue trivial
  | place, e :: rest =>
    have := Delivers.decidable land (moved land place e) rest
    inferInstanceAs (Decidable (_ ∧ _))

variable {log} {land : Position → Nat} {place : Nat}

theorem Delivers.received {t : Transcript} (delivers : log.Delivers land place t)
    (still : ∀ e ∈ t, e.1.isSeek = false) : t.received <+: log.messages.drop place := by
  induction t generalizing place with
  | nil => exact List.nil_prefix
  | cons e rest ih =>
      obtain ⟨first, later⟩ := delivers
      obtain ⟨fixed, others⟩ := List.forall_mem_cons.mp still
      have tail := ih later others
      obtain ⟨q, reply⟩ := e
      cases q with
      | receive consumer timeout =>
          cases reply with
          | message m =>
              have here := first m rfl
              obtain ⟨within, same⟩ := List.getElem?_eq_some_iff.mp here
              rw [← List.getElem_cons_drop within, same]
              exact List.cons_prefix_cons.mpr ⟨rfl, tail⟩
          | _ => exact tail
      | seek => exact nomatch fixed
      | _ => exact tail

/-- Questions about topics leave a consumer where it is. -/
theorem Delivers.skip {questions t : Transcript}
    (admin : ∀ e ∈ questions, ∃ question, e.1 = .admin question)
    (delivers : log.Delivers land place (questions ++ t)) : log.Delivers land place t := by
  induction questions with
  | nil => exact delivers
  | cons e rest ih =>
      obtain ⟨⟨question, asked⟩, others⟩ := List.forall_mem_cons.mp admin
      obtain ⟨q, reply⟩ := e
      subst asked
      exact ih others delivers.2

theorem findIdx_after {k : Nat} {m : Message} (here : log.messages[k]? = some m) :
    (log.messages.findIdx fun m' => compare m'.id m.id == .gt) = k + 1 := by
  obtain ⟨within, same⟩ := List.getElem?_eq_some_iff.mp here
  have order := List.pairwise_iff_getElem.mp log.ascends
  apply Nat.le_antisymm
  · by_contra beyond
    have next : k + 1 < log.messages.length :=
      Nat.lt_of_lt_of_le (Nat.not_le.mp beyond) List.findIdx_le_length
    have greater := order k (k + 1) within next (Nat.lt_succ_self k)
    have skipped := List.not_of_lt_findIdx (Nat.not_le.mp beyond)
    rw [same] at greater
    rw [MessageId.compare_swap, greater] at skipped
    exact nomatch skipped
  · by_contra early
    have before : log.messages.findIdx (fun m' => compare m'.id m.id == .gt) ≤ k :=
      Nat.lt_succ_iff.mp (Nat.not_le.mp early)
    have place := Nat.lt_of_le_of_lt before within
    have found := eq_of_beq (List.findIdx_getElem (w := place))
    rcases Nat.lt_or_eq_of_le before with less | equal
    · have smaller := order _ k place within less
      rw [same, found] at smaller
      exact nomatch smaller
    · simp only [equal, same] at found
      rw [Std.compare_self] at found
      exact nomatch found

end PartitionLog

namespace Session

/-- What the session receives comes from a log, wherever the consumer stood at first. -/
def DeliveredFrom (s : Session) (log : PartitionLog) (land : Position → Nat) : Prop :=
  log.Delivers land 0 s.transcript

instance (s : Session) (log : PartitionLog) (land : Position → Nat) :
    Decidable (s.DeliveredFrom log land) :=
  inferInstanceAs (Decidable (log.Delivers land 0 s.transcript))

theorem DeliveredFrom.received {s : Session} {log : PartitionLog} {land : Position → Nat}
    (delivered : s.DeliveredFrom log land) :
    receivedIn s.calls <+: log.messages.drop (land s.opened.split.seekPosition) := by
  obtain ⟨questions, now, admin, asked⟩ := s.opening_opened.asked
  rw [DeliveredFrom, transcript, asked, List.append_assoc] at delivered
  obtain ⟨_, _, _, calls⟩ := delivered.skip admin
  exact calls.received s.still

end Session
end TopicFeed
