import TopicFeed.Toml.Table
import TopicFeed.Toml.Text
import TopicFeed.Toml.Word
/-! Reading TOML documents. Readers take the rest of the document and give it back without what
they read. -/
namespace TopicFeed
namespace Toml

def skipBlanks (chars : List Char) : List Char := chars.dropWhile fun c => c == ' ' || c == '\t'

/-- Passes over blanks, line breaks and comments; `inComment` within one. -/
def skipLines (inComment : Bool) : List Char → Option (List Char)
  | [] => some []
  | '\r' :: '\n' :: rest => skipLines false rest
  | '\n' :: rest => skipLines false rest
  | c :: rest =>
    if inComment then if isPlain c then skipLines true rest else none
    else if c = ' ' ∨ c = '\t' then skipLines false rest
    else if c = '#' then skipLines true rest
    else some (c :: rest)

/-- Passes over the rest of a line with nothing but blanks and a comment on it. -/
def endLine (chars : List Char) : Option (List Char) :=
  let ended : List Char → Option (List Char)
    | [] => some []
    | '\n' :: rest => some rest
    | '\r' :: '\n' :: rest => some rest
    | _ => none
  match skipBlanks chars with
  | '#' :: rest => ended (rest.dropWhile isPlain)
  | rest => ended rest

/-- Characters of a key without quotes. -/
def isBareChar (c : Char) : Bool := c.isAlphanum || c == '_' || c == '-'

def keyPart? (chars : List Char) : Option (String × List Char) :=
  match chars with
  | '"' :: rest => basic [] rest
  | '\'' :: rest => literal [] rest
  | _ =>
    let bare := chars.takeWhile isBareChar
    if bare.isEmpty then none else some (.ofList bare, chars.dropWhile isBareChar)

/-- Reads on in a key, at most `limit` parts with points between them. -/
def parts? (limit : Nat) (chars : List Char) : Option (List String × List Char) :=
  match limit with
  | 0 => none
  | limit + 1 => do
    let (part, rest) ← keyPart? (skipBlanks chars)
    match skipBlanks rest with
    | '.' :: rest =>
      let (parts, rest) ← parts? limit rest
      return (part :: parts, rest)
    | rest => return ([part], rest)

/-- How many parts a key may have, and how deep arrays and tables between brackets may be nested. -/
def depthLimit : Nat := 80

def key? (chars : List Char) : Option (List String × List Char) := parts? depthLimit chars

mutual

/-- Reads a value in which so many levels of brackets may open, in at most `limit` steps. -/
def value? (limit levels : Nat) (chars : List Char) : Option (Toml × List Char) :=
  match limit with
  | 0 => none
  | limit + 1 =>
    match chars, levels with
    | '[' :: rest, levels + 1 => items? limit levels [] rest
    | '{' :: rest, levels + 1 => members? limit levels [] rest
    | '"' :: _, _ => (text? chars).map fun r => (.text r.1, r.2)
    | '\'' :: _, _ => (text? chars).map fun r => (.text r.1, r.2)
    | _, _ =>
      let (word, rest) := splitWord chars
      (word? word).map fun value => (value, rest)

/-- Reads on in an array, its items so far in reverse. -/
def items? (limit levels : Nat) (done : List Toml) (chars : List Char) :
    Option (Toml × List Char) :=
  match limit with
  | 0 => none
  | limit + 1 => do
    match ← skipLines false chars with
    | ']' :: rest => return (.array done.reverse, rest)
    | rest =>
      let (item, rest) ← value? limit levels rest
      match ← skipLines false rest with
      | ',' :: rest => items? limit levels (item :: done) rest
      | ']' :: rest => return (.array (item :: done).reverse, rest)
      | _ => none

def members? (limit levels : Nat) (entries : Entries) (chars : List Char) :
    Option (Toml × List Char) :=
  match limit with
  | 0 => none
  | limit + 1 => do
    match ← skipLines false chars with
    | '}' :: rest => return (.table .inline entries, rest)
    | rest =>
      let (path, rest) ← key? rest
      match ← skipLines false rest with
      | '=' :: rest =>
        let (value, rest) ← value? limit levels (← skipLines false rest)
        match ← assign path value .inline entries with
        | .table _ entries =>
          match ← skipLines false rest with
          | ',' :: rest => members? limit levels entries rest
          | '}' :: rest => return (.table .inline entries, rest)
          | _ => none
        | _ => none
      | _ => none

end

/-- A document part way through: its tables, and the path of the header last read. -/
structure Document where
  root : Entries
  path : List String

/-- Reads a header or an assignment, which takes up a line. -/
def line? (limit : Nat) (doc : Document) (chars : List Char) : Option (Document × List Char) := do
  match chars with
  | '[' :: '[' :: rest =>
    let (path, rest) ← key? rest
    match rest, ← openNext path doc.root with
    | ']' :: ']' :: rest, .table _ root => return (⟨root, path⟩, ← endLine rest)
    | _, _ => none
  | '[' :: rest =>
    let (path, rest) ← key? rest
    match rest, ← openTable path doc.root with
    | ']' :: rest, .table _ root => return (⟨root, path⟩, ← endLine rest)
    | _, _ => none
  | _ =>
    let (path, rest) ← key? chars
    match rest with
    | '=' :: rest =>
      let (value, rest) ← value? limit depthLimit (skipBlanks rest)
      match ← descend false (assign path value) doc.path .header doc.root with
      | .table _ root => return (⟨root, doc.path⟩, ← endLine rest)
      | _ => none
    | _ => none

/-- Reads lines, at most `limit` of them that are not blank. -/
def lines? (limit size : Nat) (doc : Document) (chars : List Char) : Option Entries :=
  match limit with
  | 0 => none
  | limit + 1 => do
    match ← skipLines false chars with
    | [] => return doc.root
    | rest =>
      let (doc, rest) ← line? size doc rest
      lines? limit size doc rest

/-- The entries of the document that a text writes, if it writes one. Every step of a reader passes
over a character or goes one level down, so the length of the text bounds their number. -/
def parse? (text : String) : Option Entries :=
  let chars :=
    match text.toList with
    | '\uFEFF' :: rest => rest
    | chars => chars
  let size := 2 * chars.length + 2
  lines? size size ⟨[], []⟩ chars

end Toml
end TopicFeed
