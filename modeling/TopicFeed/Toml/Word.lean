import TopicFeed.Text.Hex
import TopicFeed.Toml.Value
/-! The TOML values written without quotes or brackets: numbers, truth values, dates and times. -/
namespace TopicFeed
namespace Toml

/-- Digits with single underscores between them, these left out. -/
def digits? (isDigit : Char → Bool) (chars : List Char) : Option (List Char) :=
  let groups := chars.splitOn '_'
  if groups.all fun g => !g.isEmpty && g.all isDigit then some groups.flatten else none

/-- A decimal number without needless zeros. -/
def decimal? (chars : List Char) : Option Nat := do
  let ds ← digits? Char.isDigit chars
  if ds.head? = some '0' ∧ ds.length ≠ 1 then none else some (Nat.ofDigitChars 10 ds 0)

def based? (base : Nat) (chars : List Char) : Option Nat := do
  let isDigit (c : Char) := (Hex.value? c).any (· < base)
  let values ← (← digits? isDigit chars).mapM Hex.value?
  return values.foldl (fun n d => n * base + d) 0

def unsigned : List Char → Bool × List Char
  | '-' :: rest => (true, rest)
  | '+' :: rest => (false, rest)
  | rest => (false, rest)

/-- The least number that is no finite double even after rounding. -/
def doubleLimit : Nat := Nat.pow 2 1024 - Nat.pow 2 970

def isFinite (mantissa : Nat) (exponent : Int) : Bool :=
  let size : Int := mantissa.repr.length + exponent
  if mantissa = 0 ∨ size < 300 then true
  else if 400 < size then false
  else if 0 ≤ exponent then mantissa * Nat.pow 10 exponent.toNat < doubleLimit
  else mantissa < doubleLimit * Nat.pow 10 (-exponent).toNat

/-- Whether the text is a float: a decimal number followed by a fraction, an exponent or both. -/
def isFloat (chars : List Char) : Bool :=
  let body := (unsigned chars).2
  if body = "inf".toList ∨ body = "nan".toList then true
  else
    let isMark (c : Char) := c == 'e' || c == 'E'
    let mantissa := body.takeWhile (!isMark ·)
    let exponent? : Option Int :=
      match body.dropWhile (!isMark ·) with
      | [] => some 0
      | _ :: rest =>
        let (negative, ds) := unsigned rest
        (digits? Char.isDigit ds).map fun ds =>
          let n := Nat.ofDigitChars 10 ds 0
          if negative then -(n : Int) else n
    let whole := mantissa.takeWhile (· != '.')
    let fraction? : Option (List Char) :=
      match mantissa.dropWhile (· != '.') with
      | [] => some []
      | _ :: rest => digits? Char.isDigit rest
    match decimal? whole, fraction?, exponent? with
    | some n, some fraction, some exponent =>
      body.any (fun c => c == '.' || isMark c) &&
        isFinite (Nat.ofDigitChars 10 fraction n) (exponent - fraction.length)
    | _, _, _ => false

/-- Integers have 128 bits: so many below zero, or twice as many from zero on. -/
def integerLimit : Nat := Nat.pow 2 127

def integer? (chars : List Char) : Option Int := do
  let value : Int ←
    match chars with
    | '0' :: 'x' :: rest => (based? 16 rest).map Int.ofNat
    | '0' :: 'o' :: rest => (based? 8 rest).map Int.ofNat
    | '0' :: 'b' :: rest => (based? 2 rest).map Int.ofNat
    | _ =>
      let (negative, ds) := unsigned chars
      (decimal? ds).map fun n => if negative then -(n : Int) else n
  if -(integerLimit : Int) ≤ value ∧ value < 2 * (integerLimit : Int) then some value else none

/-- The number that exactly so many digits at the front write, and what follows them. -/
def field? (width : Nat) (chars : List Char) : Option (Nat × List Char) :=
  let ds := chars.take width
  if ds.length = width ∧ ds.all Char.isDigit then
    some (Nat.ofDigitChars 10 ds 0, chars.drop width)
  else none

def daysOf (year month : Nat) : Nat :=
  if month = 2 then
    if year % 4 = 0 ∧ (year % 100 ≠ 0 ∨ year % 400 = 0) then 29 else 28
  else if month = 4 ∨ month = 6 ∨ month = 9 ∨ month = 11 then 30
  else 31

def date? (chars : List Char) : Option (List Char) := do
  let (year, rest) ← field? 4 chars
  match rest with
  | '-' :: rest =>
    let (month, rest) ← field? 2 rest
    match rest with
    | '-' :: rest =>
      let (day, rest) ← field? 2 rest
      if 1 ≤ month ∧ month ≤ 12 ∧ 1 ≤ day ∧ day ≤ daysOf year month then some rest else none
    | _ => none
  | _ => none

def clock? (chars : List Char) : Option (List Char) := do
  let (hour, rest) ← field? 2 chars
  match rest with
  | ':' :: rest =>
    let (minute, rest) ← field? 2 rest
    if hour ≤ 23 ∧ minute ≤ 59 then some rest else none
  | _ => none

/-- Passes over a time, the seconds of which may be left out. -/
def time? (chars : List Char) : Option (List Char) := do
  match ← clock? chars with
  | ':' :: rest =>
    let (second, rest) ← field? 2 rest
    if 60 < second then none
    else
      match rest with
      | '.' :: rest =>
        if (rest.takeWhile Char.isDigit).isEmpty then none
        else some (rest.dropWhile Char.isDigit)
      | _ => some rest
  | rest => some rest

/-- Whether the text is a date, a time, or both with or without an offset. -/
def isMoment (chars : List Char) : Bool :=
  match date? chars with
  | some [] => true
  | some (mark :: rest) =>
    (mark == 'T' || mark == 't' || mark == ' ') &&
      match time? rest with
      | some [] => true
      | some ['Z'] => true
      | some ['z'] => true
      | some (sign :: offset) => (sign == '+' || sign == '-') && clock? offset == some []
      | none => false
  | none => time? chars == some []

def isWordChar (c : Char) : Bool :=
  c.isAlphanum || c == '_' || c == '-' || c == '+' || c == '.' || c == ':'

/-- Splits such a value off. A date and a time may have a blank between them. -/
def splitWord (chars : List Char) : List Char × List Char :=
  let word := chars.takeWhile isWordChar
  match chars.dropWhile isWordChar with
  | ' ' :: c :: rest =>
    if date? word == some [] && c.isDigit then
      (word ++ ' ' :: (c :: rest).takeWhile isWordChar, (c :: rest).dropWhile isWordChar)
    else (word, ' ' :: c :: rest)
  | rest => (word, rest)

def word? (chars : List Char) : Option Toml :=
  if chars = "true".toList then some (.bool true)
  else if chars = "false".toList then some (.bool false)
  else
    match integer? chars with
    | some value => some (.integer value)
    | none =>
      if isFloat chars then some .float
      else if isMoment chars then some .moment
      else none

end Toml
end TopicFeed
