import OrderedBuild.Package.Depends
import OrderedBuild.Package.Error

namespace OrderedBuild.Depends

def cycleAt (path : List String) (name : String) : List String :=
  path.dropWhile (· != name) ++ [name]

/-- Expands a package below the packages on `path`, which are still being expanded themselves. -/
def expand (d : Depends) (path : List String) (name : String) :
    Except ResolverError (List String) :=
  if _ : name ∈ path then .error (.circularDependency (cycleAt path name))
  else match _ : d.find? name with
    | none => .ok [name]
    | some deps => do
      let parts ← deps.mapM fun dep => expand d (path ++ [name]) dep
      return parts.flatten ++ [name]
termination_by d.offPath path
decreasing_by exact offPath_concat_lt ‹_› ‹_›

/-- Prerequisites come in declared order and once per path to them. A package that the map does
not know is its own closure. -/
def closure (d : Depends) (name : String) : Except ResolverError (List String) :=
  d.expand [] name

end OrderedBuild.Depends
