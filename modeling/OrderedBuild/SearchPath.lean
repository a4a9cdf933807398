import OrderedBuild.Text.Affix

namespace OrderedBuild.SearchPath

def split (s : String) : List String :=
  Text.splitOn ':' s

/-- An entry that holds a colon cannot be written. -/
def join? (entries : List String) : Option String :=
  if entries.any fun e => ':' ∈ e.toList then none else some (":".intercalate entries)

/-- Puts a directory in front; a path that is absent or empty has no entries. -/
def prepend? (entry : String) (existing : Option String) : Option String :=
  join? (entry :: match existing with
    | none => []
    | some "" => []
    | some s => split s)

end OrderedBuild.SearchPath
