/-! Byte formats. A format writes values one after another and reads a value from the front of its
bytes, so formats of parts compose to the format of the whole. -/
namespace TopicFeed

/-- Why bytes could not be read. -/
inductive DecodeFault where
  | endOfBytes
  /-- A number goes on past the bytes, or the bits, of its width. -/
  | longVarint
  | badBool
  | badOption
  | badText
  /-- An unknown alternative, or parts that make no value. -/
  | badValue
  deriving DecidableEq

namespace DecodeFault

def message : DecodeFault → String
  | .endOfBytes => "Hit the end of buffer, expected more data"
  | .longVarint =>
    "Found a varint that didn't terminate. Is the usize too big for this platform?"
  | .badBool => "Found a bool that wasn't 0 or 1"
  | .badOption => "Found an Option discriminant that wasn't 0 or 1"
  | .badText => "Tried to parse invalid utf-8"
  | .badValue => "Serde Deserialization Error"

end DecodeFault

/-- How values are written as bytes, and read back from bytes that may go on. -/
structure Format (α : Type) where
  encode : α → List UInt8
  decode : List UInt8 → Except DecodeFault (α × List UInt8)

namespace Format

variable {α β : Type}

/-- No bytes for the only value. -/
def unit : Format Unit := ⟨fun _ => [], fun bytes => .ok ((), bytes)⟩

/-- One value after the other. -/
def pair (f : Format α) (g : Format β) : Format (α × β) where
  encode v := f.encode v.1 ++ g.encode v.2
  decode bytes :=
    match f.decode bytes with
    | .error fault => .error fault
    | .ok (a, rest) =>
      match g.decode rest with
      | .error fault => .error fault
      | .ok (b, rest) => .ok ((a, b), rest)

/-- Values made of others, which may not make one. -/
def refine (f : Format α) (make : α → Option β) (parts : β → α) : Format β where
  encode b := f.encode (parts b)
  decode bytes :=
    match f.decode bytes with
    | .error fault => .error fault
    | .ok (a, rest) =>
      match make a with
      | some b => .ok (b, rest)
      | none => .error .badValue

def map (f : Format α) (make : α → β) (parts : β → α) : Format β :=
  f.refine (fun a => some (make a)) parts

/-- Seven bits a byte, the lowest first, with the eighth bit set on all but the last byte. -/
def varintBytes (n : Nat) : List UInt8 :=
  if n < 128 then [.ofNat n] else .ofNat (n % 128 + 128) :: varintBytes (n / 128)
termination_by n
decreasing_by omega

/-- Reads such bytes, at most `bytes` of them, the last possible one no greater than `last`. -/
def readVarint (last : Nat) : Nat → List UInt8 → Except DecodeFault (Nat × List UInt8)
  | 0, _ => .error .longVarint
  | _ + 1, [] => .error .endOfBytes
  | left + 1, byte :: rest =>
    if byte.toNat < 128 then
      if left = 0 ∧ last < byte.toNat then .error .longVarint else .ok (byte.toNat, rest)
    else
      match readVarint last left rest with
      | .error fault => .error fault
      | .ok (n, rest) => .ok (byte.toNat % 128 + 128 * n, rest)

def word (bits : Nat) : Format Nat where
  encode := varintBytes
  decode := readVarint (Nat.pow 2 (bits % 7) - 1) (bits / 7 + 1)

/-- Interleaves the integers from zero outwards, so that small ones stay small. -/
def zigzag (n : Int) : Nat := if 0 ≤ n then 2 * n.toNat else 2 * (-n).toNat - 1

def unzigzag (n : Nat) : Int := if n % 2 = 0 then (n / 2 : Nat) else -((n / 2 : Nat) : Int) - 1

def int32 : Format Int32 := (word 32).map (fun n => .ofInt (unzigzag n)) fun n => zigzag n.toInt

def int64 : Format Int64 := (word 64).map (fun n => .ofInt (unzigzag n)) fun n => zigzag n.toInt

def uint64 : Format UInt64 := (word 64).map .ofNat UInt64.toNat

/-- One byte, zero or one. -/
def bool : Format Bool where
  encode b := [if b then 1 else 0]
  decode
    | [] => .error .endOfBytes
    | byte :: rest =>
      if byte = 0 then .ok (false, rest)
      else if byte = 1 then .ok (true, rest)
      else .error .badBool

/-- A zero byte for nothing, a one before a value. -/
def option (f : Format α) : Format (Option α) where
  encode
    | none => [0]
    | some a => 1 :: f.encode a
  decode
    | [] => .error .endOfBytes
    | byte :: rest =>
      if byte = 0 then .ok (none, rest)
      else if byte = 1 then
        match f.decode rest with
        | .error fault => .error fault
        | .ok (a, rest) => .ok (some a, rest)
      else .error .badOption

def readMany (f : Format α) : Nat → List UInt8 → Except DecodeFault (List α × List UInt8)
  | 0, bytes => .ok ([], bytes)
  | n + 1, bytes =>
    match f.decode bytes with
    | .error fault => .error fault
    | .ok (a, rest) =>
      match readMany f n rest with
      | .error fault => .error fault
      | .ok (more, rest) => .ok (a :: more, rest)

/-- The number of values, then the values. -/
def list (f : Format α) : Format (List α) where
  encode l := (word 64).encode l.length ++ l.flatMap f.encode
  decode bytes :=
    match (word 64).decode bytes with
    | .error fault => .error fault
    | .ok (n, rest) => readMany f n rest

/-- The number of bytes, then the text in UTF-8. -/
def text : Format String where
  encode s := (word 64).encode s.utf8ByteSize ++ s.toByteArray.toList
  decode bytes :=
    match (word 64).decode bytes with
    | .error fault => .error fault
    | .ok (n, rest) =>
      let taken := rest.take n
      if taken.length < n then .error .endOfBytes
      else
        match String.fromUTF8? ⟨taken.toArray⟩ with
        | some s => .ok (s, rest.drop n)
        | none => .error .badText

/-- One alternative of a type: what it carries, and which values are of it. -/
structure Case (α : Type) : Type 1 where
  Body : Type
  format : Format Body
  make : Body → α
  body? : α → Option Body

/-- The bytes of a value: the number of its alternative, then what that carries. -/
def encodeCases (a : α) (index : Nat) : List (Case α) → List UInt8
  | [] => []
  | c :: rest =>
    match c.body? a with
    | some body => (word 32).encode index ++ c.format.encode body
    | none => encodeCases a (index + 1) rest

def Case.decode (c : Case α) (bytes : List UInt8) : Except DecodeFault (α × List UInt8) :=
  match c.format.decode bytes with
  | .error fault => .error fault
  | .ok (body, rest) => .ok (c.make body, rest)

def cases (alternatives : List (Case α)) : Format α where
  encode a := encodeCases a 0 alternatives
  decode bytes :=
    match (word 32).decode bytes with
    | .error fault => .error fault
    | .ok (index, rest) =>
      match alternatives[index]? with
      | some c => c.decode rest
      | none => .error .badValue

end Format
end TopicFeed
