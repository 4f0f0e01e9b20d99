import Mathlib.Algebra.Group.Nat.Defs
import TopicFeed.Checkpoint.Blob
/-! When bytes can be read: composed formats by their parts, checkpoints by their version and what
stands after it. -/
namespace TopicFeed
namespace Format

variable {α β : Type} {f : Format α} {g : Format β} {bytes rest : List UInt8}

theorem pair_eq_ok_iff {v : α × β} : (pair f g).decode bytes = .ok (v, rest) ↔
    ∃ middle, f.decode bytes = .ok (v.1, middle) ∧ g.decode middle = .ok (v.2, rest) := by
  simp only [pair]
  grind

theorem refine_eq_ok_iff {make : α → Option β} {parts : β → α} {b : β} :
    (f.refine make parts).decode bytes = .ok (b, rest) ↔
      ∃ a, f.decode bytes = .ok (a, rest) ∧ make a = some b := by
  simp only [Format.refine]
  grind

theorem map_eq_ok_iff {make : α → β} {parts : β → α} {b : β} :
    (f.map make parts).decode bytes = .ok (b, rest) ↔
      ∃ a, f.decode bytes = .ok (a, rest) ∧ make a = b := by
  simp only [Format.map, refine_eq_ok_iff, Option.some.injEq]

theorem readMany_succ_eq_ok_iff {n : Nat} {l : List α} :
    readMany f (n + 1) bytes = .ok (l, rest) ↔ ∃ a more middle, l = a :: more ∧
      f.decode bytes = .ok (a, middle) ∧ readMany f n middle = .ok (more, rest) := by
  rw [readMany]
  grind

theorem list_eq_ok_iff {l : List α} : (list f).decode bytes = .ok (l, rest) ↔
    ∃ n middle, (word 64).decode bytes = .ok (n, middle) ∧ readMany f n middle = .ok (l, rest) := by
  simp only [list]
  grind

end Format

namespace Checkpoint

/-- The number in some bytes, the highest of which comes first. -/
def bigEndian (bytes : List UInt8) : Nat := bytes.foldl (fun n byte => 256 * n + byte.toNat) 0

variable {α β : Type} {legacy : Format β} {upgrade : β → α} {current : Format α}
  {bytes : List UInt8} {a : α} {failure : Failure}

theorem decodeBody_eq_ok_iff : decodeBody current bytes = .ok a ↔
    ∃ rest, current.decode bytes = .ok (a, rest) := by
  unfold decodeBody
  grind

theorem decodeBody_eq_error (failed : decodeBody current bytes = .error failure) :
    ∃ fault, failure = .corruptedCheckpoint fault := by
  unfold decodeBody at failed
  split at failed
  · cases failed
  · cases failed
    exact ⟨_, rfl⟩

theorem decodeBody_ne_unknownVersion (version : Nat) :
    decodeBody current bytes ≠ .error (.unknownVersion version) := by
  intro failed
  obtain ⟨fault, other⟩ := decodeBody_eq_error failed
  cases other

theorem map_eq_ok_iff {read : Except Failure β} :
    read.map upgrade = .ok a ↔ ∃ b, read = .ok b ∧ upgrade b = a := by
  cases read with
  | error failure => simp [Except.map]
  | ok b => simp [Except.map]

theorem map_eq_error_iff {read : Except Failure β} :
    read.map upgrade = .error failure ↔ read = .error failure := by
  cases read with
  | error failure => simp [Except.map]
  | ok b => simp [Except.map]

theorem decodeBlob_of_short (short : bytes.length < 4) :
    decodeBlob legacy upgrade current bytes =
      .error (.corruptedCheckpoint (.short bytes.length)) := by
  unfold decodeBlob
  split
  · simp only [List.length_cons] at short
    omega
  · rfl

theorem decodeBlob_of_long (long : 4 ≤ bytes.length) :
    decodeBlob legacy upgrade current bytes =
      if bigEndian (bytes.take 4) = legacyVersion then
        (decodeBody legacy (bytes.drop 4)).map upgrade
      else if bigEndian (bytes.take 4) = currentVersion then decodeBody current (bytes.drop 4)
      else .error (.unknownVersion (bigEndian (bytes.take 4))) := by
  unfold decodeBlob
  split
  · next a b c d body =>
    have number : bigEndian [a, b, c, d] =
        a.toNat * 16777216 + b.toNat * 65536 + c.toNat * 256 + d.toNat := by
      simp only [bigEndian, List.foldl_cons, List.foldl_nil]
      omega
    simp only [List.take_succ_cons, List.take_zero, List.drop_succ_cons, List.drop_zero, number]
  · next none =>
    match bytes, long with
    | a :: b :: c :: d :: body, _ => exact absurd rfl (none a b c d body)

theorem bigEndian_versionBytes {version : Nat} (fits : version < 2 ^ 32) :
    bigEndian (versionBytes version) = version := by
  simp only [bigEndian, versionBytes, List.foldl_cons, List.foldl_nil, UInt8.toNat_ofNat']
  omega

theorem decodeBlob_versionBytes {version : Nat} (fits : version < 2 ^ 32) :
    decodeBlob legacy upgrade current (versionBytes version ++ bytes) =
      if version = legacyVersion then (decodeBody legacy bytes).map upgrade
      else if version = currentVersion then decodeBody current bytes
      else .error (.unknownVersion version) := by
  have long : 4 ≤ (versionBytes version ++ bytes).length := by simp [versionBytes]
  have head : (versionBytes version ++ bytes).take 4 = versionBytes version := rfl
  have body : (versionBytes version ++ bytes).drop 4 = bytes := rfl
  rw [decodeBlob_of_long long, head, body, bigEndian_versionBytes fits]

/-- A checkpoint is read by the format of its version. -/
theorem decodeBlob_eq_ok_iff : decodeBlob legacy upgrade current bytes = .ok a ↔
    4 ≤ bytes.length ∧
      ((bigEndian (bytes.take 4) = 1 ∧
          ∃ b rest, legacy.decode (bytes.drop 4) = .ok (b, rest) ∧ upgrade b = a) ∨
        bigEndian (bytes.take 4) = 2 ∧ ∃ rest, current.decode (bytes.drop 4) = .ok (a, rest)) := by
  by_cases long : 4 ≤ bytes.length
  · rw [decodeBlob_of_long long, legacyVersion, currentVersion]
    split
    · next older => simp [map_eq_ok_iff, decodeBody_eq_ok_iff, long, older]
    split
    · next newer => simp [decodeBody_eq_ok_iff, long, newer]
    · next other strange => simp [other, strange]
  · rw [decodeBlob_of_short (by omega)]
    simp [long]

/-- The version is looked at before the body. -/
theorem decodeBlob_eq_unknownVersion_iff {version : Nat} :
    decodeBlob legacy upgrade current bytes = .error (.unknownVersion version) ↔
      4 ≤ bytes.length ∧ version = bigEndian (bytes.take 4) ∧ version ≠ 1 ∧ version ≠ 2 := by
  by_cases long : 4 ≤ bytes.length
  · rw [decodeBlob_of_long long, legacyVersion, currentVersion]
    split
    · next older => simp +contextual [map_eq_error_iff, decodeBody_ne_unknownVersion, older]
    split
    · next newer => simp +contextual [decodeBody_ne_unknownVersion, newer]
    · next other strange =>
      constructor
      · intro failed
        cases failed
        exact ⟨long, rfl, other, strange⟩
      · rintro ⟨_, rfl, _⟩
        rfl
  · rw [decodeBlob_of_short (by omega)]
    simp [long]

/-- Nothing but the version or the body can be wrong. -/
theorem decodeBlob_eq_error (failed : decodeBlob legacy upgrade current bytes = .error failure) :
    (∃ version, failure = .unknownVersion version) ∨
      ∃ fault, failure = .corruptedCheckpoint fault := by
  by_cases long : 4 ≤ bytes.length
  · rw [decodeBlob_of_long long] at failed
    split at failed
    · exact .inr (decodeBody_eq_error (map_eq_error_iff.mp failed))
    split at failed
    · exact .inr (decodeBody_eq_error failed)
    · cases failed
      exact .inl ⟨_, rfl⟩
  · rw [decodeBlob_of_short (by omega)] at failed
    cases failed
    exact .inr ⟨_, rfl⟩

end Checkpoint
end TopicFeed
