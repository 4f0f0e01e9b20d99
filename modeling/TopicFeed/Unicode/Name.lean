/-! Names of properties and of their values, which may be spelled in several ways. -/
namespace TopicFeed
namespace Unicode

/-- The characters of a name that count: small ASCII letters for all, without blanks and dashes. -/
def bareName (name : List Char) : List Char :=
  (name.filter fun c => c.toNat ≤ 0x7F && c != ' ' && c != '_' && c != '-').map Char.toLower

/-- A name as it is looked up. An "is" before it does not count, except in the name "isc". -/
def looseName (name : String) : String :=
  match name.toList with
  | i :: s :: rest =>
    if i.toLower = 'i' ∧ s.toLower = 's' then
      if bareName rest = ['c'] then "isc" else .ofList (bareName rest)
    else .ofList (bareName (i :: s :: rest))
  | short => .ofList (bareName short)

def isNamed (loose : String) (names : List String) : Bool := names.any fun n => looseName n == loose

end Unicode
end TopicFeed
