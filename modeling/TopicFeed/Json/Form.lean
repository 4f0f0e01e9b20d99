import TopicFeed.Json.Value
/-! Forms of values in JSON. A form writes a value and reads one back; forms of parts compose to the
form of the whole. -/
namespace TopicFeed
namespace Json

/-- How values are written as JSON, and read back. -/
structure Form (α : Type) where
  write : α → Json
  read? : Json → Option α

/-- How values are spread over the members of an object, one value a name. -/
structure Fields (α : Type) where
  names : List String
  write : α → List Json
  /-- Reads from the values under the names; a missing one is null. -/
  read? : (String → Json) → Option α

namespace Fields

variable {α β : Type}

def one (name : String) (f : Form α) : Fields α where
  names := [name]
  write a := [f.write a]
  read? find := f.read? (find name)

/-- The fields of one value, then those of another. -/
def pair (f : Fields α) (g : Fields β) : Fields (α × β) where
  names := f.names ++ g.names
  write v := f.write v.1 ++ g.write v.2
  read? find := do
    let a ← f.read? find
    let b ← g.read? find
    return (a, b)

end Fields

namespace Form

variable {α β : Type}

/-- Values made of others, which may not make one. -/
def refine (f : Form α) (make : α → Option β) (parts : β → α) : Form β where
  write b := f.write (parts b)
  read? json := (f.read? json).bind make

def map (f : Form α) (make : α → β) (parts : β → α) : Form β :=
  f.refine (fun a => some (make a)) parts

/-- Null, for the only value. -/
def unit : Form Unit where
  write _ := .null
  read?
    | .null => some ()
    | _ => none

def bool : Form Bool := ⟨.bool, Json.bool?⟩

def text : Form String := ⟨.text, Json.text?⟩

def integer (low high : Int) : Form Int where
  write := .integer
  read? json := json.integer?.filter fun n => low ≤ n ∧ n ≤ high

def int32 : Form Int32 := (integer Int32.minValue.toInt Int32.maxValue.toInt).map .ofInt Int32.toInt

def int64 : Form Int64 := (integer Int64.minValue.toInt Int64.maxValue.toInt).map .ofInt Int64.toInt

def below (bound : Nat) : Form Nat := (integer 0 (bound - 1)).map Int.toNat Nat.cast

def uint32 : Form UInt32 := (below UInt32.size).map .ofNat UInt32.toNat

def uint64 : Form UInt64 := (below UInt64.size).map .ofNat UInt64.toNat

/-- Null for nothing. -/
def option (f : Form α) : Form (Option α) where
  write
    | none => .null
    | some a => f.write a
  read?
    | .null => some none
    | json => (f.read? json).map some

def list (f : Form α) : Form (List α) where
  write l := .array (l.map f.write)
  read? json := json.array?.bind fun items => items.mapM f.read?

def object (f : Fields α) : Form α where
  write a := .ofMembers (f.names.zip (f.write a))
  read?
    | .object members => f.read? fun name => ((Json.object members).get? name).getD .null
    | _ => none

/-- An object of fields, which may also be read from an array of their values in order. -/
def record (f : Fields α) : Form α where
  write := (object f).write
  read?
    | .array items =>
      if items.length = f.names.length then
        f.read? fun name => ((f.names.zip items).lookup name).getD .null
      else none
    | json => (object f).read? json

/-- One alternative of a type: its name, what it carries, and which values are of it. -/
structure Case (α : Type) : Type 1 where
  name : String
  Body : Type
  form : Form Body
  make : Body → α
  body? : α → Option Body

/-- An alternative that carries nothing. -/
def Case.plain [DecidableEq α] (name : String) (a : α) : Case α :=
  ⟨name, Unit, unit, fun _ => a, fun b => if b = a then some () else none⟩

/-- The name of the alternative, alone or as the key of what it carries. -/
def Case.write (c : Case α) (body : c.Body) : Json :=
  match c.form.write body with
  | .null => .text c.name
  | json => .ofMembers [(c.name, json)]

def Case.read? (c : Case α) (json : Json) : Option α := (c.form.read? json).map c.make

def cases (alternatives : List (Case α)) : Form α where
  write a := (alternatives.findSome? fun c => (c.body? a).map c.write).getD .null
  read?
    | .text name => (alternatives.find? (·.name == name)).bind (·.read? .null)
    | .object [(some name, body)] => (alternatives.find? (·.name == name)).bind (·.read? body)
    | _ => none

def named [DecidableEq α] (name : α → String) (values : List α) : Form α :=
  cases (values.map fun a => .plain (name a) a)

end Form
end Json
end TopicFeed
