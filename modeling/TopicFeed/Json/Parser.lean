import TopicFeed.Json.Token
/-! Reading JSON. The parser keeps the arrays and objects it is inside of on a stack, so nesting
costs it nothing. -/
namespace TopicFeed
namespace Json

/-- An array or object part way through, its items or members in reverse. -/
inductive Frame where
  | array (items : List Json)
  | object (members : List (Option String × Json)) (key : Option String)

/-- What may come next. -/
inductive Expect where
  | value
  /-- The first item of an array, or its end. -/
  | itemOrEnd
  | key
  /-- The first key of an object, or its end. -/
  | keyOrEnd
  | colon
  /-- A comma, or the end of the innermost array or object. -/
  | commaOrEnd
  | nothing

/-- The parser between two tokens. -/
structure Parser where
  stack : List Frame
  expect : Expect
  result : Json

namespace Parser

def finish (value : Json) : List Frame → Parser
  | [] => ⟨[], .nothing, value⟩
  | .array items :: rest => ⟨.array (value :: items) :: rest, .commaOrEnd, .null⟩
  | .object members key :: rest =>
    ⟨.object ((key, value) :: members) none :: rest, .commaOrEnd, .null⟩

/-- The key that a token writes, if it is a text. -/
def keyOf? : Token → Option (Option String)
  | .scalar (.text key) => some (some key)
  | .scalar .brokenText => some none
  | _ => none

def takeKey (stack : List Frame) (key : Option String) : Option Parser :=
  match stack with
  | .object members _ :: rest => some ⟨.object members key :: rest, .colon, .null⟩
  | _ => none

def takeValue (stack : List Frame) : Token → Option Parser
  | .scalar value => some (finish value stack)
  | .openArray => some ⟨.array [] :: stack, .itemOrEnd, .null⟩
  | .openObject => some ⟨.object [] none :: stack, .keyOrEnd, .null⟩
  | _ => none

def takeEnd (stack : List Frame) (token : Token) : Option Parser :=
  match token, stack with
  | .closeArray, .array items :: rest => some (finish (.array items.reverse) rest)
  | .closeObject, .object members _ :: rest => some (finish (.object members.reverse) rest)
  | _, _ => none

def step (p : Parser) (token : Token) : Option Parser :=
  match p.expect with
  | .value => takeValue p.stack token
  | .itemOrEnd =>
    match token with
    | .closeArray => takeEnd p.stack token
    | _ => takeValue p.stack token
  | .key => (keyOf? token).bind (takeKey p.stack)
  | .keyOrEnd =>
    match token with
    | .closeObject => takeEnd p.stack token
    | _ => (keyOf? token).bind (takeKey p.stack)
  | .colon =>
    match token with
    | .colon => some { p with expect := .value }
    | _ => none
  | .commaOrEnd =>
    match token, p.stack with
    | .comma, .array _ :: _ => some { p with expect := .value }
    | .comma, .object _ _ :: _ => some { p with expect := .key }
    | _, _ => takeEnd p.stack token
  | .nothing => none

end Parser

/-- The value that a text writes, if it writes one. -/
def parse? (text : String) : Option Json := do
  let tokens ← Token.scan .between [] text.toList
  let final ← tokens.foldlM Parser.step ⟨[], .value, .null⟩
  match final.expect with
  | .nothing => some final.result
  | _ => none

end Json
end TopicFeed
