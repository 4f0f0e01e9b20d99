/-! Topic names. A complete name has a domain before `://`; a partition of a topic is known by the
name of the topic, a suffix and the index of the partition. -/
namespace TopicFeed

namespace TopicName

/-- What stands between the name of a topic and the index of a partition. -/
def partitionSuffix : List Char := "-partition-".toList

def domainMark : List Char := "://".toList

def occursIn (part : List Char) : List Char → Bool
  | [] => part.isEmpty
  | c :: rest => part.isPrefixOf (c :: rest) || occursIn part rest

/-- Completes a short name. A name with a domain is complete, a name of three or more segments
lacks the domain only, any other also lacks tenant and namespace. -/
def completeChars (name : List Char) : List Char :=
  if occursIn domainMark name then name
  else if 2 ≤ name.count '/' then "persistent://".toList ++ name
  else "persistent://public/default/".toList ++ name

/-- Splits a text around the last occurrence of a separator. -/
def splitAtLast (separator : List Char) : List Char → Option (List Char × List Char)
  | [] => none
  | c :: rest =>
    match splitAtLast separator rest with
    | some (before, after) => some (c :: before, after)
    | none =>
      if separator.isPrefixOf (c :: rest) then some ([], (c :: rest).drop separator.length)
      else none

/-- Indexes are signed words that are not negative. -/
def indexLimit : Nat := 2147483648

/-- Reads the index of a partition: decimal digits after an optional sign, within the limits. -/
def readIndex (text : List Char) : Option Int32 :=
  let (negative, digits) :=
    match text with
    | '-' :: digits => (true, digits)
    | '+' :: digits => (false, digits)
    | digits => (false, digits)
  if digits.isEmpty || !digits.all Char.isDigit then none
  else
    let n := Nat.ofDigitChars 10 digits 0
    if (negative && n == 0) || (!negative && n < indexLimit) then some (Int32.ofNat n) else none

def complete (name : String) : String := .ofList (completeChars name.toList)

def ofPartition (topic : String) (id : Int32) : String :=
  topic ++ .ofList partitionSuffix ++ id.toInt.repr

/-- The topic a name belongs to, and the index of the partition if the name has one. -/
def parent (name : String) : String × Option Int32 :=
  let completed := completeChars name.toList
  match splitAtLast partitionSuffix completed with
  | some (topic, digits) =>
    match readIndex digits with
    | some index => (.ofList topic, some index)
    | none => (.ofList completed, none)
  | none => (.ofList completed, none)

end TopicName
end TopicFeed
