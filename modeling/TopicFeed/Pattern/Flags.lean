import TopicFeed.Unicode.Fold
import TopicFeed.Unicode.Property
/-! What flags change about the reading of regular expressions. -/
namespace TopicFeed
namespace Regex

/-- What flags say about the characters read. -/
structure Flags where
  caseless : Bool := false
  multiline : Bool := false
  dotAll : Bool := false
  /-- Whether repetitions take as little as they can, and do not with a question mark. -/
  lazy : Bool := false
  verbose : Bool := false
  unicode : Bool := true
  crlf : Bool := false

def asciiDigit : CharSet := .run 0x30 0x39

def asciiWord : CharSet := ⟨[(0x30, 0x39), (0x41, 0x5A), (0x5F, 0x5F), (0x61, 0x7A)]⟩

def asciiBlank : CharSet := ⟨[(0x9, 0xD), (0x20, 0x20)]⟩

/-- What a negation takes: everything but a set. Where one run ends right before the surrogates and
another begins right after them, no character is between the two. The bounds of that gap are in
the wrong order, and the characters they are count as not in the set. -/
def others (set : CharSet) : CharSet :=
  let isSplit := set.runs.any (·.2 == CharSet.lastLow) && set.runs.any (·.1 == CharSet.firstHigh)
  if isSplit then set.complement.union (.ofCodes [CharSet.lastLow, CharSet.firstHigh])
  else set.complement

namespace Flags

def close (flags : Flags) (set : CharSet) : CharSet :=
  if flags.caseless then if flags.unicode then set.fold else set.foldAscii else set

def word (flags : Flags) : CharSet := if flags.unicode then Unicode.word else asciiWord

/-- Everything but a set. Without Unicode that would have bytes which are no characters. -/
def others? (flags : Flags) (set : CharSet) : Option CharSet :=
  if flags.unicode then some (others set) else none

/-- Passes over the blanks and comments that count for nothing in verbose patterns. -/
def skip (flags : Flags) (inComment : Bool) : List Char → List Char
  | [] => []
  | c :: rest =>
    if !flags.verbose then c :: rest
    else if inComment then flags.skip (c != '\n') rest
    else if isBlank c then flags.skip false rest
    else if c = '#' then flags.skip true rest
    else c :: rest

def next (flags : Flags) (chars : List Char) : List Char := flags.skip false chars

/-- Splits off the characters that satisfy `p`, without the blanks and comments around them. -/
def span (flags : Flags) (p : Char → Bool) (inComment : Bool) : List Char → List Char × List Char
  | [] => ([], [])
  | c :: rest =>
    if flags.verbose && inComment then flags.span p (c != '\n') rest
    else if flags.verbose && isBlank c then flags.span p false rest
    else if flags.verbose && c == '#' then flags.span p true rest
    else if p c then
      let (more, rest) := flags.span p false rest
      (c :: more, rest)
    else ([], c :: rest)

/-- Splits off the characters between braces, after the opening one. -/
def braced? (flags : Flags) (chars : List Char) : Option (List Char × List Char) :=
  match flags.span (· != '}') false chars with
  | (inside, '}' :: rest) => some (inside, rest)
  | _ => none

end Flags
end Regex
end TopicFeed
