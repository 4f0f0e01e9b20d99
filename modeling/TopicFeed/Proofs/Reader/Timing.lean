import TopicFeed.Proofs.Reader.Transcript
import TopicFeed.Proofs.Run
/-! Conversations in time. A question is asked at one time and answered at the same or a later one.
How long that may take is a matter of the question, and all that a reader gets to know of it is what
the clock tells. A conversation comes to its result or to where the program stops. -/
namespace TopicFeed

/-- The clock tells the time at which it is read; other replies say nothing about it. -/
def Question.Tells (now : Instant) : (q : Question) → q.Reply → Prop
  | .time, told => told = now
  | _, _ => True

/-- Waiting for a message is over by its timeout, and nothing else takes any time. -/
def Question.Prompt : Question → Duration → Prop
  | .receive _ timeout, spent => spent ≤ timeout
  | _, spent => spent = .zero

/-- Any question may take any time. -/
def Question.Slow (_ : Question) (_ : Duration) : Prop := True

namespace Instant

variable {t u v : Instant}

theorem le_trans (first : t ≤ u) (second : u ≤ v) : t ≤ v := Nat.le_trans first second

theorem since_self (t : Instant) : t.since t = .zero := Duration.ext (Nat.sub_self _)

/-- Where no time passes it stays the same. -/
theorem eq_of_since (le : t ≤ u) (none : u.since t = .zero) : u = t := by
  have same : u.nanoseconds - t.nanoseconds = 0 := congrArg Duration.nanoseconds none
  exact Instant.ext (Nat.le_antisymm (Nat.le_of_sub_eq_zero same) le)

/-- What is left of the time to `v` once it is `u`. -/
theorem since_sub_since (le : t ≤ u) : v.since t - u.since t = v.since u := by
  apply Duration.ext
  simp only [Duration.nanoseconds_sub, nanoseconds_since, le_def] at *
  omega

end Instant

namespace Transcript

/-- A question is asked at one time and answered at another, as fast as it has to be. -/
inductive Passes (pace : Question → Duration → Prop) (now : Instant) :
    (q : Question) × q.Reply → Instant → Prop
  | after {q : Question} {reply : q.Reply} {later : Instant} : now ≤ later →
      q.Tells later reply → pace q (later.since now) → Passes pace now ⟨q, reply⟩ later

/-- From one time to another the questions of a transcript are asked and answered. -/
abbrev Lasts (pace : Question → Duration → Prop) (start : Instant) (t : Transcript)
    (finish : Instant) : Prop := Runs (Passes pace) start t finish

variable {pace : Question → Duration → Prop} {start finish : Instant} {t : Transcript}

theorem Passes.le {now later : Instant} {e : (q : Question) × q.Reply}
    (passes : Passes pace now e later) : now ≤ later := by
  cases passes with
  | after le => exact le

theorem Lasts.le (lasts : t.Lasts pace start finish) : start ≤ finish := by
  induction lasts with
  | nil now => exact Nat.le_refl _
  | cons first _ ih => exact Instant.le_trans first.le ih

/-- A clock that is read last tells when the conversation is over. -/
theorem Lasts.told {told : Instant}
    (lasts : Lasts pace start (t ++ [⟨Question.time, told⟩]) finish) :
    told = finish ∧ ∃ now, t.Lasts pace start now ∧ now ≤ told := by
  obtain ⟨now, before, clock⟩ := Runs.concat_iff.mp lasts
  cases clock with
  | after le tells _ =>
      obtain rfl : told = finish := tells
      exact ⟨rfl, now, before, le⟩

/-- Where nothing is waited for, no time passes. -/
theorem Lasts.eq_of_silent (lasts : t.Lasts Question.Prompt start finish)
    (silent : t.receipts = []) : finish = start := by
  induction lasts with
  | nil => rfl
  | @cons now middle _ _ t first _ ih =>
      cases first with
      | @after q reply _ le _ paced =>
          have quick : middle.since now = .zero ∧ receipts t = [] := by
            cases q with
            | receive => exact nomatch silent
            | _ => exact ⟨paced, silent⟩
          rw [ih quick.2]
          exact Instant.eq_of_since le quick.1

end Transcript

namespace Dialogue

variable {α : Type} {d : Exchange α} {t : Transcript Question.Reply}

/-- With these replies the dialogue comes to where the program stops. -/
inductive Aborts : Exchange α → Transcript Question.Reply → Prop
  | here {next} : Aborts (.ask .abort next) []
  | ask {q next reply t} : Aborts (next reply) t → Aborts (.ask q next) (⟨q, reply⟩ :: t)

theorem not_aborts_done {a : α} : ¬(Dialogue.done a : Exchange α).Aborts t := nofun

theorem Aborts.replied {q : Question} {next : q.Reply → Exchange α}
    (h : (Dialogue.ask q next).Aborts t) (answered : q ≠ .abort) :
    ∃ reply rest, t = ⟨q, reply⟩ :: rest ∧ (next reply).Aborts rest := by
  cases h with
  | here => exact absurd rfl answered
  | ask h => exact ⟨_, _, rfl, h⟩

/-- A dialogue that never asks for it does not stop the program. -/
theorem Meets.not_aborts {asks : Question → Prop} {ends : α → Prop} (meets : d.Meets asks ends)
    (answered : ¬asks .abort) : ¬d.Aborts t := by
  intro h
  induction h with
  | here => exact answered meets.1
  | ask _ ih => exact ih (meets.2 _)

end Dialogue

/-- An outside: its replies, and when they come, may depend on all that was said before. The clock
is right, and every reply comes as fast as it has to. -/
structure Script (pace : Question → Duration → Prop) where
  replies : Instant → Transcript → (q : Question) → q ≠ .abort → q.Reply
  repliedAt : Instant → Transcript → Question → Instant
  later : ∀ (now : Instant) (said : Transcript) (q : Question), now ≤ repliedAt now said q
  tells : ∀ (now : Instant) (said : Transcript) (q : Question) (answered : q ≠ .abort),
    q.Tells (repliedAt now said q) (replies now said q answered)
  paced : ∀ (now : Instant) (said : Transcript) (q : Question),
    pace q ((repliedAt now said q).since now)

/-- A dialogue that has been held. There is no result if the program has stopped. -/
structure Conversation (α : Type) where
  transcript : Transcript
  result : Option α
  finish : Instant

/-- A conversation is one in which this dialogue was held from some time on. -/
structure Conversation.Holds {α : Type} (pace : Question → Duration → Prop) (d : Exchange α)
    (start : Instant) (c : Conversation α) : Prop where
  ends : ∀ result, c.result = some result → d.Yields c.transcript result
  stops : c.result = none → d.Aborts c.transcript
  lasts : c.transcript.Lasts pace start c.finish

namespace Script

variable {pace : Question → Duration → Prop} (script : Script pace) {α : Type}

/-- Holds a dialogue from some time on, after what was said. It comes to an end, as every dialogue
does. -/
def hold : Exchange α → Instant → Transcript → Conversation α
  | .done result, now, _ => ⟨[], some result, now⟩
  | .ask q next, now, said =>
    if answered : q ≠ .abort then
      let reply := script.replies now said q answered
      let later := hold (next reply) (script.repliedAt now said q) (said ++ [⟨q, reply⟩])
      { later with transcript := ⟨q, reply⟩ :: later.transcript }
    else ⟨[], none, now⟩

theorem hold_holds (d : Exchange α) (now : Instant) (said : Transcript) :
    (script.hold d now said).Holds pace d now := by
  induction d generalizing now said with
  | done result =>
      refine ⟨?_, nofun, .nil now⟩
      rintro _ ⟨⟩
      exact .done result
  | ask q next ih =>
      rw [hold]
      split
      · next answered =>
        let reply := script.replies now said q answered
        have held := ih reply (script.repliedAt now said q) (said ++ [⟨q, reply⟩])
        have passes : Transcript.Passes pace now ⟨q, reply⟩ (script.repliedAt now said q) :=
          .after (script.later now said q) (script.tells now said q answered)
            (script.paced now said q)
        exact ⟨fun result same => .ask (held.ends result same),
          fun stopped => .ask (held.stops stopped), .cons passes held.lasts⟩
      · next stops =>
        obtain rfl := Decidable.not_not.mp stops
        exact ⟨nofun, fun _ => .here, .nil now⟩

end Script
end TopicFeed
