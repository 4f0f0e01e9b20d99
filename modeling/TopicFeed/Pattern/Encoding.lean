import TopicFeed.Unicode.CharSet
/-! The bytes that characters have in UTF-8. -/
namespace TopicFeed
namespace Regex

/-- The bytes of a code point. -/
def encode (code : Nat) : List Nat :=
  let tail (n : Nat) : Nat := 0x80 + n % 64
  if code < 0x80 then [code]
  else if code < 0x800 then [0xC0 + code / 64, tail code]
  else if code < 0x10000 then [0xE0 + code / 4096, tail (code / 64), tail code]
  else [0xF0 + code / 262144, tail (code / 4096), tail (code / 64), tail code]

/-- The first and last value that each byte of some encodings has. -/
abbrev ByteRanges := List (Nat × Nat)

/-- The code points that are encoded in the same number of bytes, without the surrogates. -/
def blocks : List (Nat × Nat) :=
  [(0, 0x7F), (0x80, 0x7FF), (0x800, 0xD7FF), (0xE000, 0xFFFF), (0x10000, 0x10FFFF)]

/-- Cuts a run of code points so that in each piece every byte takes its values whatever the
others are: a byte may change only if those after it take all values. The sizes are how many code
points share a byte, from the last byte on. -/
def cut (run : Nat × Nat) : List Nat → List (Nat × Nat)
  | [] => [run]
  | size :: sizes =>
    let (first, last) := run
    if first / size = last / size then [run]
    else
      let front := (first + size - 1) / size * size
      let back := (last + 1) / size * size
      let head := if first < front then [(first, front - 1)] else []
      let middle := if front < back then cut (front, back - 1) sizes else []
      let tail := if back ≤ last then [(back, last)] else []
      head ++ middle ++ tail

/-- The ranges of bytes that encode a run of code points, in ascending order. -/
def encodeRun (run : Nat × Nat) : List ByteRanges :=
  blocks.flatMap fun block =>
    let first := max run.1 block.1
    let last := min run.2 block.2
    if last < first then []
    else
      let pieces := if last ≤ 0x7F then [(first, last)] else cut (first, last) [64, 4096, 262144]
      pieces.map fun piece => (encode piece.1).zip (encode piece.2)

/-- The ranges of bytes that encode the characters of a set. -/
def encodeSet (set : CharSet) : List ByteRanges := set.runs.flatMap encodeRun

end Regex
end TopicFeed
