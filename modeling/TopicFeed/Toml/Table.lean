import TopicFeed.Toml.Value
/-! Growing the tables of a document. A table is defined once: a header may take over only what
other headers passed through, and a dotted key may extend only what dotted keys made. -/
namespace TopicFeed
namespace Toml

/-- Changes the table at the end of a path of keys, making tables where there are none. With `dots`
the path is that of a dotted key. -/
def descend (dots : Bool) (change : Origin → Entries → Option Toml) :
    List String → Origin → Entries → Option Toml
  | [], origin, entries => change origin entries
  | key :: path, origin, entries =>
    match entries.lookup key with
    | none => do
      let made := if dots then Origin.dotted else Origin.passed
      let value ← descend dots change path made []
      return .table origin (Entries.put entries key value)
    | some (.table below inner) =>
      if below = .inline ∨ (dots ∧ below = .header) then none
      else do
        let value ← descend dots change path below inner
        return .table origin (Entries.put entries key value)
    | some (.tables (last :: before)) => do
      match ← descend dots change path .header last with
      | .table _ inner => return .table origin (Entries.put entries key (.tables (inner :: before)))
      | _ => none
    | some _ => none

/-- Sets a new key. The table of a dotted key is one that dotted keys made. -/
def putKey (dots : Bool) (key : String) (value : Toml) (origin : Origin) (entries : Entries) :
    Option Toml :=
  if dots ≠ (origin == .dotted) then none
  else
    match entries.lookup key with
    | some _ => none
    | none => some (.table origin (Entries.put entries key value))

/-- Sets the value of a key, dotted or not, in a table. -/
def assign (path : List String) (value : Toml) (origin : Origin) (entries : Entries) :
    Option Toml :=
  match path.reverse with
  | [] => none
  | key :: before =>
    descend true (putKey (!before.isEmpty) key value) before.reverse origin entries

def openTable (path : List String) (root : Entries) : Option Toml :=
  match path.reverse with
  | [] => none
  | key :: before =>
    descend false (fun origin entries =>
      match entries.lookup key with
      | none => some (.table origin (Entries.put entries key (.table .header [])))
      | some (.table .passed inner) =>
        some (.table origin (Entries.put entries key (.table .header inner)))
      | some _ => none) before.reverse .header root

/-- Opens one more of the tables that a header in double brackets names. -/
def openNext (path : List String) (root : Entries) : Option Toml :=
  match path.reverse with
  | [] => none
  | key :: before =>
    descend false (fun origin entries =>
      match entries.lookup key with
      | none => some (.table origin (Entries.put entries key (.tables [[]])))
      | some (.tables items) =>
        some (.table origin (Entries.put entries key (.tables ([] :: items))))
      | some _ => none) before.reverse .header root

end Toml
end TopicFeed
