import TopicFeed.Text.Hex
/-! The four ways to write a text in TOML. Each reader starts after the opening quotes and gives the
text and what follows its closing quotes. -/
namespace TopicFeed
namespace Toml

def isPlain (c : Char) : Bool := c == '\t' || (0x20 ≤ c.toNat && c.toNat != 0x7F)

def codePoint? (digits : List Char) : Option Char := do
  let values ← digits.mapM Hex.value?
  let code := values.foldl (fun n d => n * 16 + d) 0
  if h : code.isValidChar then some (.ofNatAux code h) else none

def shortEscape? : Char → Option Char
  | 'b' => some '\x08'
  | 't' => some '\t'
  | 'n' => some '\n'
  | 'f' => some '\x0c'
  | 'r' => some '\r'
  | 'e' => some '\x1b'
  | '"' => some '"'
  | '\\' => some '\\'
  | _ => none

/-- A text with escapes on one line. -/
def basic (done : List Char) : List Char → Option (String × List Char)
  | [] => none
  | '"' :: rest => some (.ofList done.reverse, rest)
  | '\\' :: 'x' :: a :: b :: rest => do basic ((← codePoint? [a, b]) :: done) rest
  | '\\' :: 'u' :: a :: b :: c :: d :: rest => do basic ((← codePoint? [a, b, c, d]) :: done) rest
  | '\\' :: 'U' :: a :: b :: c :: d :: e :: f :: g :: h :: rest => do
    basic ((← codePoint? [a, b, c, d, e, f, g, h]) :: done) rest
  | '\\' :: c :: rest => do basic ((← shortEscape? c) :: done) rest
  | c :: rest => if isPlain c && c != '\\' then basic (c :: done) rest else none

/-- A text without escapes on one line. -/
def literal (done : List Char) : List Char → Option (String × List Char)
  | [] => none
  | '\'' :: rest => some (.ofList done.reverse, rest)
  | c :: rest => if isPlain c then literal (c :: done) rest else none

def runLength (c : Char) (chars : List Char) : Nat := (chars.takeWhile (· == c)).length

/-- Whether nothing but blanks is left of the line. -/
def lineEnds (chars : List Char) : Bool :=
  match chars.dropWhile fun c => c == ' ' || c == '\t' with
  | '\n' :: _ => true
  | '\r' :: '\n' :: _ => true
  | _ => false

/-- A text with escapes on several lines. A backslash at the end of a line takes the break and the
blanks after it away, which `trimming` stands for. Three quotes end the text, and up to two more
before them belong to it. -/
def multiBasic (trimming : Bool) (done : List Char) : List Char → Option (String × List Char)
  | [] => none
  | '"' :: rest =>
    let run := runLength '"' rest
    if run = 2 then some (.ofList done.reverse, rest.drop 2)
    else if run ≤ 4 then multiBasic false ('"' :: done) rest
    else none
  | '\r' :: '\n' :: rest =>
    if trimming then multiBasic true done rest else multiBasic false ('\n' :: '\r' :: done) rest
  | '\\' :: 'x' :: a :: b :: rest => do multiBasic false ((← codePoint? [a, b]) :: done) rest
  | '\\' :: 'u' :: a :: b :: c :: d :: rest => do
    multiBasic false ((← codePoint? [a, b, c, d]) :: done) rest
  | '\\' :: 'U' :: a :: b :: c :: d :: e :: f :: g :: h :: rest => do
    multiBasic false ((← codePoint? [a, b, c, d, e, f, g, h]) :: done) rest
  | '\\' :: rest =>
    if lineEnds rest then multiBasic true done rest
    else
      match rest with
      | [] => none
      | c :: rest => do multiBasic false ((← shortEscape? c) :: done) rest
  | c :: rest =>
    if trimming && (c == ' ' || c == '\t' || c == '\n') then multiBasic true done rest
    else if isPlain c || c == '\n' then multiBasic false (c :: done) rest
    else none

/-- A text without escapes on several lines. -/
def multiLiteral (done : List Char) : List Char → Option (String × List Char)
  | [] => none
  | '\'' :: rest =>
    let run := runLength '\'' rest
    if run = 2 then some (.ofList done.reverse, rest.drop 2)
    else if run ≤ 4 then multiLiteral ('\'' :: done) rest
    else none
  | '\r' :: '\n' :: rest => multiLiteral ('\n' :: '\r' :: done) rest
  | c :: rest => if isPlain c || c == '\n' then multiLiteral (c :: done) rest else none

/-- Passes over the line break that may follow the opening quotes of several lines. -/
def skipBreak : List Char → List Char
  | '\n' :: rest => rest
  | '\r' :: '\n' :: rest => rest
  | chars => chars

/-- Reads a text, if one starts here. -/
def text? : List Char → Option (String × List Char)
  | '"' :: '"' :: '"' :: rest => multiBasic false [] (skipBreak rest)
  | '\'' :: '\'' :: '\'' :: rest => multiLiteral [] (skipBreak rest)
  | '"' :: rest => basic [] rest
  | '\'' :: rest => literal [] rest
  | _ => none

end Toml
end TopicFeed
