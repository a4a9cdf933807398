namespace OrderedBuild.Path

def isAbsolute (p : String) : Bool :=
  p.toList.head? == some '/'

/-- An absolute second path stands for itself; a separator is put in only where one is missing. -/
def join (a b : String) : String :=
  if isAbsolute b then b
  else if a.toList.isEmpty || a.toList.getLast? == some '/' then a ++ b
  else a ++ "/" ++ b

/-- A path whose last characters come first, without separators and single dots that name
nothing at its end. -/
def trimReversed : List Char → List Char
  | '/' :: r => if r.isEmpty then ['/'] else trimReversed r
  | '.' :: '/' :: r => trimReversed ('/' :: r)
  | r => r
termination_by r => r.length

/-- The last component, unless it is a dot, two dots or the root. -/
def fileName? (p : String) : Option String :=
  let name := ((trimReversed p.toList.reverse).takeWhile (· ≠ '/')).reverse
  if name = [] || name = ['.'] || name = ['.', '.'] then none else some (String.ofList name)

def parent? (p : String) : Option String :=
  let r := trimReversed p.toList.reverse
  if r = [] || r = ['/'] then none
  else some (String.ofList (trimReversed (r.dropWhile (· ≠ '/'))).reverse)

end OrderedBuild.Path
