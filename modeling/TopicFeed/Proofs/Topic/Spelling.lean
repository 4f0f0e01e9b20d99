import TopicFeed.Proofs.Topic.Name
/-! How the index of a partition is written. The name that is made for a partition is read as that
of the partition. Conversely a name that is read as that of a partition need not be the one that is
made for it, since an index may be written with a sign, and with zeros before it. -/
namespace TopicFeed
namespace TopicName

section Numerals

variable {digits : List Char}

theorem exists_digitChar {c : Char} (numeral : c.isDigit = true) :
    ∃ digit < 10, Nat.digitChar digit = c := by
  obtain ⟨low, high⟩ : 48 ≤ c.toNat ∧ c.toNat ≤ 57 := Char.isDigit_iff_toNat.mp numeral
  refine ⟨c.toNat - 48, by omega, Char.toNat_inj.mp ?_⟩
  rw [Nat.toNat_digitChar_of_lt_ten (by omega)]
  omega

/-- Digits that come after a number are those of the number that is read on from it. -/
theorem toDigits_ofDigitChars_from {front : Nat} (some : 0 < front)
    (numeral : ∀ c ∈ digits, c.isDigit = true) :
    Nat.toDigits 10 (Nat.ofDigitChars 10 digits front) = Nat.toDigits 10 front ++ digits := by
  induction digits generalizing front with
  | nil => rw [Nat.ofDigitChars_nil, List.append_nil]
  | cons c rest ih =>
      obtain ⟨here, others⟩ := List.forall_mem_cons.mp numeral
      obtain ⟨digit, small, rfl⟩ := exists_digitChar here
      rw [Nat.ofDigitChars_cons_digitChar_of_lt_ten small, ih (by omega) others,
        ← Nat.toDigits_append_toDigits (by decide) some small, Nat.toDigits_of_lt_base small,
        List.append_assoc, List.singleton_append]

theorem toDigits_ofDigitChars (some : digits ≠ []) (numeral : ∀ c ∈ digits, c.isDigit = true)
    (unpadded : digits.head? = .some '0' → digits = ['0']) :
    Nat.toDigits 10 (Nat.ofDigitChars 10 digits 0) = digits := by
  cases digits with
  | nil => exact absurd rfl some
  | cons c rest =>
      obtain ⟨here, others⟩ := List.forall_mem_cons.mp numeral
      obtain ⟨digit, small, rfl⟩ := exists_digitChar here
      by_cases zero : digit = 0
      · rw [unpadded (by rw [zero]; rfl)]
        rfl
      · rw [Nat.ofDigitChars_cons_digitChar_of_lt_ten small, Nat.mul_zero, Nat.zero_add,
          toDigits_ofDigitChars_from (Nat.pos_of_ne_zero zero) others,
          Nat.toDigits_of_lt_base small, List.singleton_append]

/-- No number but zero begins with a zero. -/
theorem head?_toDigits {n : Nat} (some : n ≠ 0) : (Nat.toDigits 10 n).head? ≠ .some '0' := by
  induction n using Nat.strongRecOn with
  | ind n ih =>
      rw [Nat.toDigits_eq_if (by decide)]
      split
      · rw [List.head?_singleton, Ne, Option.some_inj, Nat.digitChar_eq_zero]
        exact some
      · obtain ⟨c, rest, front⟩ := List.exists_cons_of_ne_nil (Nat.toDigits_ne_nil (n := n / 10))
        have first := ih (n / 10) (by omega) (by omega)
        rw [front] at first ⊢
        exact first

end Numerals

/-- An index is written as it is printed: it has no sign, and no zeros before it. -/
def Plain (text : List Char) : Prop :=
  text.head? ≠ some '+' ∧ text.head? ≠ some '-' ∧ (text.head? = some '0' → text = ['0'])

instance (text : List Char) : Decidable (Plain text) :=
  inferInstanceAs (Decidable (_ ∧ _ ∧ (_ → _)))

theorem plain_toDigits (n : Nat) : Plain (Nat.toDigits 10 n) := by
  have unsigned {sign : Char} (other : sign.isDigit = false) :
      (Nat.toDigits 10 n).head? ≠ some sign :=
    fun first => not_mem_toDigits other (List.mem_of_head? first)
  refine ⟨unsigned rfl, unsigned rfl, fun first => ?_⟩
  by_cases zero : n = 0
  · rw [zero]
    rfl
  · exact absurd first (head?_toDigits zero)

theorem eq_toDigits_iff {text : List Char} {index : Int32} (read : readIndex text = some index) :
    text = Nat.toDigits 10 index.toInt.toNat ↔ Plain text := by
  constructor
  · intro printed
    rw [printed]
    exact plain_toDigits _
  · rintro ⟨unsigned, unsigned', unpadded⟩
    obtain ⟨digits, written, some, numeral, small, rfl⟩ := readIndex_written read
    rcases written with rfl | rfl | rfl
    · rw [Int32.toInt_ofNat_of_lt small, Int.toNat_natCast,
        toDigits_ofDigitChars some numeral unpadded]
    · exact absurd rfl unsigned
    · exact absurd rfl unsigned'

/-- What a name has for an index: the text after the last suffix. -/
def indexText (name : String) : List Char :=
  ((splitAtLast partitionSuffix (completeChars name.toList)).map Prod.snd).getD []

variable {name topic : String} {index : Int32}

/-- The name of a partition is read with the topic and the text of the index apart. -/
theorem toList_complete (single : parent name = (topic, some index)) :
    (complete name).toList = topic.toList ++ (partitionSuffix ++ indexText name) ∧
      readIndex (indexText name) = some index := by
  rcases parent_cases name with same | ⟨front, digits, _, found, read, same⟩
  · rw [same] at single
    exact nomatch single
  · rw [same] at single
    cases single
    rw [indexText, found, complete, String.toList_ofList, String.toList_ofList]
    exact ⟨eq_of_splitAtLast found, read⟩

/-- A name is the one that is made for the partition it is read as, if the index is plain. -/
theorem ofPartition_eq_complete_iff (single : parent name = (topic, some index)) :
    ofPartition topic index = complete name ↔ Plain (indexText name) := by
  obtain ⟨whole, read⟩ := toList_complete single
  have signed := (readIndex_spec read).1
  rw [← String.toList_inj, toList_ofPartition topic signed, whole, List.append_cancel_left_eq,
    List.append_cancel_left_eq, eq_comm]
  exact eq_toDigits_iff read

/-- The name that is made for a partition of a topic is read as that of this partition, whatever the
name of the topic looks like; and completing is done once. -/
theorem parses_back (name : String) : complete (complete name) = complete name ∧
    ∀ index : Int32, 0 ≤ index.toInt →
      parent (ofPartition (complete name) index) = (complete name, some index) := by
  refine ⟨complete_complete name, fun index signed => ?_⟩
  rw [parent_ofPartition (complete name) signed, complete_complete]

theorem parses_back_nested : 0 ≤ (2147483647 : Int32).toInt ∧
    complete "t-partition--partition-7" = "persistent://public/default/t-partition--partition-7" ∧
    complete (complete "t-partition--partition-7") = complete "t-partition--partition-7" ∧
    parent "persistent://public/default/t-partition--partition-7-partition-2147483647" =
      ("persistent://public/default/t-partition--partition-7", some 2147483647) := by
  have signed : 0 ≤ (2147483647 : Int32).toInt := by decide
  have completed : complete "t-partition--partition-7" =
      "persistent://public/default/t-partition--partition-7" := by decide +kernel
  have printed : ofPartition (complete "t-partition--partition-7") 2147483647 =
      "persistent://public/default/t-partition--partition-7-partition-2147483647" := by
    decide +kernel
  obtain ⟨once, reads⟩ := parses_back "t-partition--partition-7"
  have read := reads 2147483647 signed
  rw [printed, completed] at read
  exact ⟨signed, completed, once, read⟩

end TopicName
end TopicFeed
