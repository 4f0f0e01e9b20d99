import TopicFeed.Topic.Name
/-! Names of topics and of their partitions. Completing puts a domain, and what else is missing,
before a short name, and leaves a complete name alone. A name is that of a partition if an index
follows the last suffix in it, so the name made for a partition tells its topic and its index. -/
namespace TopicFeed
namespace TopicName

section Text

variable {part separator text before after rest : List Char}

theorem occursIn_iff : occursIn part text = true ↔ part <:+: text := by
  induction text with
  | nil => rw [occursIn, List.isEmpty_iff, List.infix_nil]
  | cons c rest ih =>
      rw [occursIn, Bool.or_eq_true, ih, List.isPrefixOf_iff_prefix, List.infix_cons_iff]

/-- A part does not reach into a text that has none of its characters. -/
theorem infix_append_iff_of_disjoint (apart : ∀ c ∈ part, c ∉ rest) :
    part <:+: text ++ rest ↔ part <:+: text := by
  have empty {l : List Char} (some : l ⊆ part) (more : l ⊆ rest) : l = [] :=
    List.eq_nil_iff_forall_not_mem.mpr fun c member => apart c (some member) (more member)
  rw [List.infix_append_iff]
  constructor
  · rintro (within | beyond | ⟨front, back, rfl, ends, begins⟩)
    · exact within
    · rw [empty (List.Subset.refl _) beyond.subset]
      exact List.nil_infix
    · rw [empty (List.subset_append_right _ _) begins.subset, List.append_nil]
      exact ends.isInfix
  · exact .inl

theorem splitAtLast_eq_none (absent : ¬separator <:+: text) :
    splitAtLast separator text = none := by
  induction text with
  | nil => rfl
  | cons c rest ih =>
      rw [List.infix_cons_iff, not_or] at absent
      rw [splitAtLast, ih absent.2]
      exact if_neg (mt List.isPrefixOf_iff_prefix.mp absent.1)

/-- A text is split where no separator begins later. -/
theorem splitAtLast_append {c : Char} (last : ¬c :: separator <:+: separator ++ after) :
    splitAtLast (c :: separator) (before ++ c :: (separator ++ after)) = some (before, after) := by
  induction before with
  | nil =>
      have here : (c :: separator).isPrefixOf (c :: (separator ++ after)) = true :=
        List.isPrefixOf_iff_prefix.mpr (List.prefix_append (c :: separator) after)
      rw [List.nil_append, splitAtLast, splitAtLast_eq_none last, if_pos here]
      exact congrArg (fun rest => some ([], rest)) List.drop_left
  | cons d before ih => rw [List.cons_append, splitAtLast, ih]

theorem eq_of_splitAtLast (found : splitAtLast separator text = some (before, after)) :
    text = before ++ (separator ++ after) := by
  induction text generalizing before with
  | nil => exact nomatch found
  | cons c rest ih =>
      rw [splitAtLast] at found
      split at found
      · next front back later =>
        cases found
        rw [ih later, List.cons_append]
      · split at found
        · next here =>
          cases found
          obtain ⟨after, whole⟩ := List.isPrefixOf_iff_prefix.mp here
          rw [← whole, List.drop_left, List.nil_append]
        · exact nomatch found

end Text

section Completion

/-- What is put before a name ends its domain, so that the whole needs no completing. -/
theorem occursIn_completeChars (name : List Char) :
    occursIn domainMark (completeChars name) = true := by
  unfold completeChars
  split
  · next complete => exact complete
  split
  · exact occursIn_iff.mpr ⟨"persistent".toList, name, rfl⟩
  · exact occursIn_iff.mpr ⟨"persistent".toList, "public/default/".toList ++ name, rfl⟩

theorem completeChars_completeChars (name : List Char) :
    completeChars (completeChars name) = completeChars name :=
  if_pos (occursIn_completeChars name)

theorem complete_complete (name : String) : complete (complete name) = complete name := by
  rw [complete, complete, String.toList_ofList, completeChars_completeChars]

/-- The text that is missing from a name comes before it. -/
theorem complete_eq (name : String) : complete name = name ∨
    complete name = "persistent://" ++ name ∨
    complete name = "persistent://public/default/" ++ name := by
  unfold complete completeChars
  split
  · exact .inl String.ofList_toList
  split
  · exact .inr (.inl (by rw [String.ofList_append, String.ofList_toList, String.ofList_toList]))
  · exact .inr (.inr (by rw [String.ofList_append, String.ofList_toList, String.ofList_toList]))

theorem utf8ByteSize_complete_le (name : String) :
    (complete name).utf8ByteSize ≤ name.utf8ByteSize + 28 := by
  have domain : "persistent://".utf8ByteSize = 13 := by decide
  have space : "persistent://public/default/".utf8ByteSize = 28 := by decide
  rcases complete_eq name with same | same | same <;> rw [same]
  · omega
  · rw [String.utf8ByteSize_append]
    omega
  · rw [String.utf8ByteSize_append]
    omega

/-- What comes after a name does not matter, as long as it looks like no part of a domain. -/
theorem completeChars_append {name rest : List Char} (plain : ∀ c ∈ rest, c ∉ domainMark) :
    completeChars (name ++ rest) = completeChars name ++ rest := by
  have marked : occursIn domainMark (name ++ rest) = occursIn domainMark name := by
    rw [Bool.eq_iff_iff, occursIn_iff, occursIn_iff]
    exact infix_append_iff_of_disjoint fun c mark member => plain c member mark
  have segments : (name ++ rest).count '/' = name.count '/' := by
    have none : rest.count '/' = 0 :=
      List.count_eq_zero.mpr fun member => plain '/' member (by decide)
    rw [List.count_append, none, Nat.add_zero]
  rw [completeChars, completeChars, marked, segments]
  split
  · rfl
  · split <;> rw [List.append_assoc]

end Completion

section Index

theorem isDigit_of_mem_toDigits {n : Nat} {c : Char} (member : c ∈ Nat.toDigits 10 n) :
    c.isDigit = true :=
  Nat.isDigit_of_mem_toDigits (by decide) (by decide) member

theorem not_mem_toDigits {n : Nat} {c : Char} (other : c.isDigit = false) :
    c ∉ Nat.toDigits 10 n :=
  fun member => nomatch other.symm.trans (isDigit_of_mem_toDigits member)

theorem readIndex_of_digits {digits : List Char} (some : digits ≠ [])
    (numeral : ∀ c ∈ digits, c.isDigit = true)
    (small : Nat.ofDigitChars 10 digits 0 < indexLimit) :
    readIndex digits = .some (Int32.ofNat (Nat.ofDigitChars 10 digits 0)) := by
  have unsigned (sign : Char) (rest : List Char) (signed : sign.isDigit = false) :
      digits ≠ sign :: rest := by
    rintro rfl
    exact nomatch signed.symm.trans (numeral sign List.mem_cons_self)
  have all : digits.all Char.isDigit = true := List.all_eq_true.mpr numeral
  unfold readIndex
  split
  next negative rest signed =>
    split at signed
    · exact absurd rfl (unsigned '-' _ rfl)
    · exact absurd rfl (unsigned '+' _ rfl)
    · cases signed
      simp [all, some, small]

theorem readIndex_toDigits {n : Nat} (small : n < indexLimit) :
    readIndex (Nat.toDigits 10 n) = some (Int32.ofNat n) := by
  have value : Nat.ofDigitChars 10 (Nat.toDigits 10 n) 0 = n := Nat.ofDigitChars_ten_toDigits
  have read := readIndex_of_digits Nat.toDigits_ne_nil (fun _ => isDigit_of_mem_toDigits)
    (value ▸ small)
  rwa [value] at read

theorem not_mem_partitionSuffix {c : Char} (mark : c ∈ domainMark) : c ∉ partitionSuffix := by
  have apart : domainMark.all (fun c => !partitionSuffix.contains c) = true := by decide
  simpa using List.all_eq_true.mp apart c mark

/-- An index is read off digits, which a sign may precede, and fits in the words for indexes. -/
theorem readIndex_written {text : List Char} {index : Int32} (read : readIndex text = some index) :
    ∃ digits, (text = digits ∨ text = '+' :: digits ∨ text = '-' :: digits) ∧ digits ≠ [] ∧
      (∀ c ∈ digits, c.isDigit = true) ∧ Nat.ofDigitChars 10 digits 0 < indexLimit ∧
      index = Int32.ofNat (Nat.ofDigitChars 10 digits 0) := by
  unfold readIndex at read
  split at read
  next negative digits signed =>
    dsimp only at read
    split at read
    · exact nomatch read
    next written =>
    rw [Bool.or_eq_true, not_or, Bool.not_eq_true', Bool.not_eq_false,
      List.all_eq_true, List.isEmpty_iff] at written
    split at read
    · next within =>
      cases read
      have small : Nat.ofDigitChars 10 digits 0 < indexLimit := by
        rw [Bool.or_eq_true, Bool.and_eq_true, Bool.and_eq_true] at within
        rcases within with ⟨_, zero⟩ | ⟨_, below⟩
        · rw [eq_of_beq zero]
          decide
        · exact of_decide_eq_true below
      refine ⟨digits, ?_, written.1, written.2, small, rfl⟩
      split at signed
      · cases signed
        exact .inr (.inr rfl)
      · cases signed
        exact .inr (.inl rfl)
      · cases signed
        exact .inl rfl
    · exact nomatch read

/-- An index is not negative, and nothing that is read as one looks like a part of a domain. -/
theorem readIndex_spec {text : List Char} {index : Int32} (read : readIndex text = some index) :
    0 ≤ index.toInt ∧ ∀ c ∈ text, c ∉ domainMark := by
  have plain {c : Char} (numeral : c.isDigit = true) : c ∉ domainMark := by
    intro mark
    have marks : domainMark.all (fun c => !c.isDigit) = true := by decide
    have none := List.all_eq_true.mp marks c mark
    rw [numeral] at none
    exact nomatch none
  obtain ⟨digits, written, _, numeral, small, rfl⟩ := readIndex_written read
  have numerals : ∀ c ∈ digits, c ∉ domainMark := fun c member => plain (numeral c member)
  rw [Int32.toInt_ofNat_of_lt small]
  refine ⟨Int.natCast_nonneg _, ?_⟩
  rcases written with rfl | rfl | rfl
  · exact numerals
  · exact List.forall_mem_cons.mpr ⟨by decide, numerals⟩
  · exact List.forall_mem_cons.mpr ⟨by decide, numerals⟩

end Index

section Partition

theorem toList_ofPartition (topic : String) {id : Int32} (signed : 0 ≤ id.toInt) :
    (ofPartition topic id).toList =
      topic.toList ++ (partitionSuffix ++ Nat.toDigits 10 id.toInt.toNat) := by
  obtain ⟨n, same⟩ := Int.eq_ofNat_of_zero_le signed
  rw [ofPartition, String.toList_append, String.toList_append, String.toList_ofList, same,
    List.append_assoc]
  exact congrArg (fun digits => _ ++ (_ ++ digits)) Nat.toList_repr

/-- The suffix has two dashes, and only one of them stands after its first character. -/
theorem splitAtLast_partitionSuffix {topic digits : List Char} (plain : '-' ∉ digits) :
    splitAtLast partitionSuffix (topic ++ (partitionSuffix ++ digits)) = some (topic, digits) := by
  have last : ¬partitionSuffix <:+: "partition-".toList ++ digits := by
    intro inside
    have dashes := inside.count_le '-'
    rw [List.count_append, List.count_eq_zero.mpr plain] at dashes
    exact absurd dashes (by decide)
  exact splitAtLast_append last

/-- A name is that of a whole topic, or it ends in a suffix and an index. -/
theorem parent_cases (name : String) : parent name = (complete name, none) ∨
    ∃ topic digits index, splitAtLast partitionSuffix (completeChars name.toList) =
        some (topic, digits) ∧
      readIndex digits = some index ∧ parent name = (.ofList topic, some index) := by
  unfold parent
  dsimp only
  split
  · next topic digits found =>
    split
    · next index read => exact .inr ⟨topic, digits, index, found, read, rfl⟩
    · exact .inl rfl
  · exact .inl rfl

variable {name : String}

theorem parent_of_whole (whole : (parent name).2 = none) : parent name = (complete name, none) := by
  rcases parent_cases name with same | ⟨_, _, _, _, _, same⟩
  · exact same
  · rw [same] at whole
    exact nomatch whole

theorem index_nonneg {index : Int32} (has : (parent name).2 = some index) : 0 ≤ index.toInt := by
  rcases parent_cases name with same | ⟨_, _, _, _, read, same⟩
  · rw [same] at has
    exact nomatch has
  · rw [same] at has
    cases has
    exact (readIndex_spec read).1

theorem parent_complete (name : String) : parent (complete name) = parent name := by
  rw [parent, complete, String.toList_ofList, completeChars_completeChars]
  rfl

/-- The domain of a name is one of its topic. -/
theorem complete_parent (name : String) : complete (parent name).1 = (parent name).1 := by
  rcases parent_cases name with same | ⟨topic, digits, index, found, read, same⟩
  · rw [same]
    exact complete_complete name
  · have marked : domainMark <:+: topic ++ (partitionSuffix ++ digits) :=
      eq_of_splitAtLast found ▸ occursIn_iff.mp (occursIn_completeChars name.toList)
    have plain : ∀ c ∈ domainMark, c ∉ partitionSuffix ++ digits := by
      intro c mark member
      rcases List.mem_append.mp member with within | after
      · exact absurd within (not_mem_partitionSuffix mark)
      · exact (readIndex_spec read).2 c after mark
    have inside := occursIn_iff.mpr ((infix_append_iff_of_disjoint plain).mp marked)
    rw [same, complete, String.toList_ofList, completeChars, if_pos inside]

theorem parent_ofPartition (topic : String) {index : Int32} (signed : 0 ≤ index.toInt) :
    parent (ofPartition topic index) = (complete topic, some index) := by
  have small : index.toInt.toNat < indexLimit := by
    have below := index.toInt_lt
    unfold indexLimit
    omega
  have numerals : ∀ c ∈ partitionSuffix ++ Nat.toDigits 10 index.toInt.toNat, c ∉ domainMark :=
    List.forall_mem_append.mpr ⟨fun _ within mark => not_mem_partitionSuffix mark within,
      (readIndex_spec (readIndex_toDigits small)).2⟩
  have read : Int32.ofNat index.toInt.toNat = index := by
    apply Int32.toInt_inj.mp
    rw [Int32.toInt_ofNat_of_lt small, Int.toNat_of_nonneg signed]
  rw [parent, toList_ofPartition topic signed, completeChars_append numerals,
    splitAtLast_partitionSuffix (not_mem_toDigits rfl)]
  dsimp only
  rw [readIndex_toDigits small, read]
  rfl

end Partition
end TopicName
end TopicFeed
