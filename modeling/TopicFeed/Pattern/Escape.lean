import TopicFeed.Pattern.Flags
import TopicFeed.Pattern.Property
import TopicFeed.Pattern.Regex
import TopicFeed.Text.Hex
/-! Backslash escapes of regular expressions. -/
namespace TopicFeed
namespace Regex

/-- What an escape stands for. -/
inductive Escape where
  /-- A character. Two hexadecimal digits write a byte rather than a character. -/
  | literal (c : Char) (byte : Bool)
  | set (set : CharSet)
  | anchor (condition : Anchor)

/-- Characters with a meaning of their own, and punctuation that may have one some day. -/
def isEscapable (c : Char) : Bool :=
  c.toNat ≤ 0x7F && !c.isAlphanum && c != '<' && c != '>'

def codePoint? (digits : List Char) : Option Char := do
  if digits.isEmpty then none
  let values ← digits.mapM Hex.value?
  let code := values.foldl (fun n d => n * 16 + d) 0
  if h : code.isValidChar then some (.ofNatAux code h) else none

/-- Splits off a number of characters, and the blanks and comments after each. -/
def take? (flags : Flags) : Nat → List Char → Option (List Char × List Char)
  | 0, chars => some ([], chars)
  | n + 1, c :: rest => (take? flags n (flags.next rest)).map fun r => (c :: r.1, r.2)
  | _ + 1, [] => none

/-- Reads the digits of a numeric escape, so many or any number between braces. -/
def numeric? (flags : Flags) (width : Nat) (chars : List Char) : Option (Escape × List Char) :=
  match flags.next chars with
  | '{' :: rest => do
    let (digits, rest) ← flags.braced? rest
    return (.literal (← codePoint? digits) false, flags.next rest)
  | chars => do
    let (digits, rest) ← take? flags width chars
    return (.literal (← codePoint? digits) (width == 2), rest)

/-- Reads a property, one letter or any text between braces, and gives its set, or what is not in
the set. -/
def property? (flags : Flags) (negated : Bool) (chars : List Char) :
    Option (Escape × List Char) := do
  if !flags.unicode then none
  let meant (query : List Char) : Option Escape :=
    (query? query).map fun (set, unequal) =>
      let set := flags.close set
      .set (if negated == unequal then set else others set)
  match flags.next chars with
  | '{' :: rest =>
    let (query, rest) ← flags.braced? rest
    return (← meant query, rest)
  | c :: rest => return (← meant [c], flags.next rest)
  | [] => none

/-- The condition between the braces after a word boundary. -/
def namedBoundary? (name : List Char) : Option Anchor :=
  if name = "start".toList then some .wordStart
  else if name = "end".toList then some .wordEnd
  else if name = "start-half".toList then some .wordStartHalf
  else if name = "end-half".toList then some .wordEndHalf
  else none

/-- Reads what follows the letter of a word boundary. Braces that hold no name belong to a
repetition. -/
def boundary? (flags : Flags) (chars : List Char) : Option (Escape × List Char) :=
  match chars with
  | '{' :: rest =>
    match flags.span (fun c => c.isAlpha || c == '-') false rest with
    | ([], _) => some (.anchor .wordBoundary, chars)
    | (name, '}' :: rest) => (namedBoundary? name).map fun a => (.anchor a, rest)
    | _ => none
  | _ => some (.anchor .wordBoundary, chars)

/-- A class that has a Unicode and an ASCII form, or what is not in it. -/
def classEscape? (flags : Flags) (unicode ascii : CharSet) (negated : Bool)
    (rest : List Char) : Option (Escape × List Char) := do
  let set := if flags.unicode then unicode else ascii
  if negated then return (.set (← flags.others? set), rest)
  return (.set set, rest)

/-- Reads an escape after its backslash. -/
def escape? (flags : Flags) : List Char → Option (Escape × List Char)
  | [] => none
  | c :: rest =>
    let digit := Unicode.Category.decimalNumber.chars
    match c with
    | 'd' => classEscape? flags digit asciiDigit false rest
    | 'D' => classEscape? flags digit asciiDigit true rest
    | 's' => classEscape? flags .blank asciiBlank false rest
    | 'S' => classEscape? flags .blank asciiBlank true rest
    | 'w' => classEscape? flags Unicode.word asciiWord false rest
    | 'W' => classEscape? flags Unicode.word asciiWord true rest
    | 'p' => property? flags false rest
    | 'P' => property? flags true rest
    | 'x' => numeric? flags 2 rest
    | 'u' => numeric? flags 4 rest
    | 'U' => numeric? flags 8 rest
    | 'a' => some (.literal '\x07' false, rest)
    | 'f' => some (.literal '\x0c' false, rest)
    | 'n' => some (.literal '\n' false, rest)
    | 'r' => some (.literal '\r' false, rest)
    | 't' => some (.literal '\t' false, rest)
    | 'v' => some (.literal '\x0b' false, rest)
    | 'A' => some (.anchor .textStart, rest)
    | 'z' => some (.anchor .textEnd, rest)
    | 'b' => boundary? flags rest
    | 'B' => some (.anchor .noWordBoundary, rest)
    | '<' => some (.anchor .wordStart, rest)
    | '>' => some (.anchor .wordEnd, rest)
    | _ => if isEscapable c then some (.literal c false, rest) else none

end Regex
end TopicFeed
