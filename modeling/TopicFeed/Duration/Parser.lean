import TopicFeed.Duration
import TopicFeed.Text.Blank
/-! Written spans of time such as `1h 30m` or `2.5s`: a sequence of numbers, each with a unit, that
are added up. Numbers are 64-bit words, and whatever does not fit is refused. -/
namespace TopicFeed
namespace Duration

/-- Why a text is not a span of time. Offsets count bytes. -/
inductive Fault where
  | empty
  | numberExpected (offset : Nat)
  | invalidCharacter (offset : Nat)
  /-- A number or a sum leaves the range of words, or is no whole number of nanoseconds. -/
  | overflow
  | unitMissing (number : UInt64)
  | unknownUnit (unit : String)
  deriving DecidableEq

namespace Fault

def message : Fault → String
  | .empty => "value was empty"
  | .numberExpected offset => s!"expected number at {offset}"
  | .invalidCharacter offset => s!"invalid character at {offset}"
  | .overflow =>
    "number is too large or cannot be represented without a lack of precision " ++
      "(values below 1ns are not supported)"
  | .unitMissing number => s!"time unit needed, for example {number}sec or {number}ms"
  | .unknownUnit unit =>
    s!"unknown time unit \"{unit}\", supported units: ns, us/µs, ms, sec, min, hours, days, " ++
      "weeks, months, years (and few variations)"

end Fault

/-- How a unit counts. -/
inductive Grain where
  /-- Whole numbers only, in nanoseconds. -/
  | nanosecond
  /-- So many nanoseconds. -/
  | short (nanoseconds : Nat)
  /-- So many seconds, fractions in nanoseconds. -/
  | middle (seconds : Nat)
  /-- So many seconds, fractions in seconds. -/
  | long (seconds : Nat)

def units : List (List String × Grain) :=
  [(["nanos", "nsec", "ns"], .nanosecond),
    (["usec", "us", "µs"], .short 1000),
    (["millis", "msec", "ms"], .short 1000000),
    (["seconds", "second", "secs", "sec", "s"], .middle 1),
    (["minutes", "minute", "min", "mins", "m"], .middle 60),
    (["hours", "hour", "hrs", "hr", "h"], .long 3600),
    (["days", "day", "d"], .long 86400),
    (["weeks", "week", "wks", "wk", "w"], .long 604800),
    (["months", "month", "M"], .long 2630016),
    (["years", "year", "yrs", "yr", "y"], .long 31557600)]

def grain? (unit : String) : Option Grain :=
  (units.find? fun u => u.1.contains unit).map (·.2)

def word (n : Nat) : Except Fault UInt64 :=
  if bounded : n < UInt64.size then .ok (.ofNatLT n bounded) else .error .overflow

def plus (total : Duration) (seconds nanoseconds : UInt64) : Except Fault Duration := do
  let below ← word (total.subsecond + nanoseconds.toNat)
  let above ← word (total.seconds + seconds.toNat + below.toNat / perSecond)
  return .ofParts above below.toNat

/-- The fraction of a unit, if it comes out even. -/
def share (numerator denominator : UInt64) (size : Nat) : Except Fault UInt64 := do
  let scaled ← word (numerator.toNat * size)
  if scaled % denominator = 0 then .ok (scaled / denominator) else .error .overflow

/-- Adds so many units, and a decimal fraction of one, to a span. -/
def addUnits (total : Duration) (number : UInt64) (fraction : Option (UInt64 × UInt64))
    (unit : List Char) : Except Fault Duration := do
  if unit.isEmpty then throw (.unitMissing number)
  match grain? (.ofList unit) with
  | none => throw (.unknownUnit (.ofList unit))
  | some .nanosecond =>
    let sum ← total.plus 0 number
    match fraction with
    | none => return sum
    | some _ => throw .overflow
  | some (.short size) =>
    let sum ← total.plus 0 (← word (number.toNat * size))
    match fraction with
    | none => return sum
    | some (n, d) => sum.plus 0 (← share n d size)
  | some (.middle size) =>
    let sum ← total.plus (← word (number.toNat * size)) 0
    match fraction with
    | none => return sum
    | some (n, d) => sum.plus 0 (← share n d (size * perSecond))
  | some (.long size) =>
    let sum ← total.plus (← word (number.toNat * size)) 0
    match fraction with
    | none => return sum
    | some (n, d) => sum.plus (← share n d size) 0

def isUnitChar (c : Char) : Bool := c.isAlpha || c == 'µ'

/-- What is being read. -/
inductive Reading where
  /-- Nothing yet, before the first pair or a later one. -/
  | between (first : Bool)
  | number (value : UInt64)
  /-- The digits after a point. Faults are reported at `mark`, the end of what was read of them. -/
  | fraction (value numerator denominator : UInt64) (mark : Nat)
  /-- A unit, its characters in reverse. -/
  | unit (value : UInt64) (fraction : Option (UInt64 × UInt64)) (chars : List Char)

def digit (c : Char) : Nat := c.toNat - '0'.toNat

/-- Reads on at a byte offset. -/
def read (total : Duration) (reading : Reading) (offset : Nat) :
    List Char → Except Fault Duration
  | [] =>
    match reading with
    | .between true => .error .empty
    | .between false => .ok total
    | .number value => addUnits total value none []
    | .fraction value numerator denominator mark =>
      if denominator = 1 then .error (.invalidCharacter mark)
      else addUnits total value (some (numerator, denominator)) []
    | .unit value fraction chars => addUnits total value fraction chars.reverse
  | c :: rest =>
    let next := offset + c.utf8Size
    match reading with
    | .between first =>
      if isBlank c then read total (.between first) next rest
      else if c.isDigit then read total (.number (.ofNat (digit c))) next rest
      else .error (.numberExpected offset)
    | .number value =>
      if c.isDigit then
        match word (value.toNat * 10 + digit c) with
        | .ok value => read total (.number value) next rest
        | .error fault => .error fault
      else if isBlank c then read total (.number value) next rest
      else if isUnitChar c then read total (.unit value none [c]) next rest
      else if c = '.' then read total (.fraction value 0 1 offset) next rest
      else .error (.invalidCharacter offset)
    | .fraction value numerator denominator mark =>
      if c.isDigit then
        match word (denominator.toNat * 10), word (numerator.toNat * 10 + digit c) with
        | .ok denominator, .ok numerator =>
          read total (.fraction value numerator denominator next) next rest
        | _, _ => .error .overflow
      else if isBlank c then read total (.fraction value numerator denominator next) next rest
      else if isUnitChar c && denominator != 1 then
        read total (.unit value (some (numerator, denominator)) [c]) next rest
      else .error (.invalidCharacter mark)
    | .unit value fraction chars =>
      if c.isDigit then
        match addUnits total value fraction chars.reverse with
        | .ok total => read total (.number (.ofNat (digit c))) next rest
        | .error fault => .error fault
      else if isBlank c then
        match addUnits total value fraction chars.reverse with
        | .ok total => read total (.between false) next rest
        | .error fault => .error fault
      else if isUnitChar c then read total (.unit value fraction (c :: chars)) next rest
      else .error (.invalidCharacter offset)

def parse (text : String) : Except Fault Duration := read zero (.between true) 0 text.toList

end Duration
end TopicFeed
