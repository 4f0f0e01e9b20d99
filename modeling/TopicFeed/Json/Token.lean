import TopicFeed.Json.Value
import TopicFeed.Text.Hex
/-! The tokens of a JSON text. -/
namespace TopicFeed
namespace Json

/-- A token: punctuation, or a value that is neither an array nor an object. -/
inductive Token where
  | openArray
  | closeArray
  | openObject
  | closeObject
  | colon
  | comma
  | scalar (value : Json)

namespace Token

def hexUnit? (a b c d : Char) : Option Nat := do
  return (← Hex.value? a) * 4096 + (← Hex.value? b) * 256 + (← Hex.value? c) * 16 +
    (← Hex.value? d)

def shortEscape? : Char → Option Char
  | '"' => some '"'
  | '\\' => some '\\'
  | '/' => some '/'
  | 'b' => some '\x08'
  | 'f' => some '\x0c'
  | 'n' => some '\n'
  | 'r' => some '\r'
  | 't' => some '\t'
  | _ => none

/-- Code units in the range of the first, or of the second, half of a surrogate pair. -/
def isHighHalf (unit : Nat) : Bool := 0xD800 ≤ unit && unit < 0xDC00

def isLowHalf (unit : Nat) : Bool := 0xDC00 ≤ unit && unit < 0xE000

/-- Decodes what stands between the quotes of a text. An escaped unit that is half of a pair
waits in `high` for the other half; `whole` tells whether every half has found its other half. -/
def decode (chars : List Char) (high : Option Nat) (done : List Char) (whole : Bool) :
    Option Json :=
  match chars with
  | [] =>
    some (if whole && high.isNone then .text (.ofList done.reverse) else .brokenText)
  | '\\' :: 'u' :: a :: b :: c :: d :: rest =>
    match hexUnit? a b c d with
    | none => none
    | some unit =>
      if isLowHalf unit then
        match high with
        | some first =>
          let code := 0x10000 + (first - 0xD800) * 0x400 + (unit - 0xDC00)
          decode rest none (Char.ofNat code :: done) whole
        | none => decode rest none done false
      else if isHighHalf unit then decode rest (some unit) done (whole && high.isNone)
      else decode rest none (Char.ofNat unit :: done) (whole && high.isNone)
  | '\\' :: c :: rest =>
    match shortEscape? c with
    | none => none
    | some e => decode rest none (e :: done) (whole && high.isNone)
  | c :: rest =>
    if c = '\\' ∨ c.toNat < 0x20 then none
    else decode rest none (c :: done) (whole && high.isNone)

/-- Reads a number that has an integer part without needless zeros. -/
def number? (chars : List Char) : Option Json :=
  let (negative, unsigned) :=
    match chars with
    | '-' :: rest => (true, rest)
    | rest => (false, rest)
  let whole := unsigned.takeWhile Char.isDigit
  let rest := unsigned.dropWhile Char.isDigit
  if whole.isEmpty || (whole.head? == some '0' && whole.length != 1) then none
  else
    match rest with
    | [] =>
      let n := Nat.ofDigitChars 10 whole 0
      some (if negative then (if n = 0 then .real else .integer (-(n : Int))) else .integer n)
    | _ =>
      let afterFraction :=
        match rest with
        | '.' :: more =>
          if (more.takeWhile Char.isDigit).isEmpty then none
          else some (more.dropWhile Char.isDigit)
        | more => some more
      match afterFraction with
      | none => none
      | some [] => some .real
      | some (e :: more) =>
        if e = 'e' ∨ e = 'E' then
          let digits :=
            match more with
            | '+' :: digits => digits
            | '-' :: digits => digits
            | digits => digits
          if digits.isEmpty || !digits.all Char.isDigit then none else some .real
        else none

def word? (chars : List Char) : Option Json :=
  if chars = "null".toList then some .null
  else if chars = "true".toList then some (.bool true)
  else if chars = "false".toList then some (.bool false)
  else number? chars

def punctuation? : Char → Option Token
  | '[' => some .openArray
  | ']' => some .closeArray
  | '{' => some .openObject
  | '}' => some .closeObject
  | ':' => some .colon
  | ',' => some .comma
  | _ => none

/-- What is being read: nothing, a word, a text, or the character after a backslash in a text.
The characters read stand in reverse. -/
inductive Reading where
  | between
  | word (chars : List Char)
  | quoted (chars : List Char)
  | escaped (chars : List Char)

/-- Splits a text into tokens, `done` being those before it in reverse. -/
def scan (reading : Reading) (done : List Token) : List Char → Option (List Token)
  | [] =>
    match reading with
    | .between => some done.reverse
    | .word chars => (word? chars.reverse).map fun value => (.scalar value :: done).reverse
    | .quoted _ | .escaped _ => none
  | c :: rest =>
    match reading with
    | .quoted chars =>
      if c = '"' then
        match decode chars.reverse none [] true with
        | some value => scan .between (.scalar value :: done) rest
        | none => none
      else if c = '\\' then scan (.escaped chars) done rest
      else scan (.quoted (c :: chars)) done rest
    | .escaped chars => scan (.quoted (c :: '\\' :: chars)) done rest
    | .word chars =>
      if c = ' ' ∨ c = '\t' ∨ c = '\n' ∨ c = '\r' then
        match word? chars.reverse with
        | some value => scan .between (.scalar value :: done) rest
        | none => none
      else
        match punctuation? c with
        | some token =>
          match word? chars.reverse with
          | some value => scan .between (token :: .scalar value :: done) rest
          | none => none
        | none => if c = '"' then none else scan (.word (c :: chars)) done rest
    | .between =>
      if c = ' ' ∨ c = '\t' ∨ c = '\n' ∨ c = '\r' then scan .between done rest
      else if c = '"' then scan (.quoted []) done rest
      else
        match punctuation? c with
        | some token => scan .between (token :: done) rest
        | none => scan (.word [c]) done rest

end Token
end Json
end TopicFeed
