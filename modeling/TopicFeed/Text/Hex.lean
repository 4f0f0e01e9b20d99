/-! Bytes as hexadecimal text, two digits a byte, the higher first. -/
namespace TopicFeed
namespace Hex

def digit (n : Nat) : Char := if n < 10 then .ofNat (48 + n) else .ofNat (87 + n)

def value? (c : Char) : Option Nat :=
  if '0' ≤ c ∧ c ≤ '9' then some (c.toNat - 48)
  else if 'a' ≤ c ∧ c ≤ 'f' then some (c.toNat - 87)
  else if 'A' ≤ c ∧ c ≤ 'F' then some (c.toNat - 55)
  else none

def encode (bytes : List UInt8) : List Char :=
  bytes.flatMap fun b => [digit (b.toNat / 16), digit (b.toNat % 16)]

/-- Reads digits, which have to come in pairs. -/
def decode : List Char → Option (List UInt8)
  | [] => some []
  | high :: low :: rest =>
    match value? high, value? low, decode rest with
    | some h, some l, some bytes => some (.ofNat (16 * h + l) :: bytes)
    | _, _, _ => none
  | [_] => none

end Hex
end TopicFeed
