import OrderedBuild.Package.Closure

namespace OrderedBuild

/-- The packages that count as planned, and the plan so far. A package may be marked as planned
without being in the plan. -/
structure Planning where
  planned : List String
  plan : List String
deriving DecidableEq, Repr

namespace Planning

def empty : Planning :=
  ⟨[], []⟩

def mark (s : Planning) (name : String) : Planning :=
  { s with planned := s.planned.insert name }

def push (s : Planning) (name : String) : Planning :=
  ⟨s.planned.insert name, s.plan ++ [name]⟩

end Planning

namespace Depends

/-- Plans the prerequisites of a package and then the package, below the packages on `path`. -/
def extend (d : Depends) (path : List String) (name : String) (s : Planning) :
    Except ResolverError Planning :=
  if name ∈ s.planned then .ok s
  else if _ : name ∈ path then .error (.circularDependency (cycleAt path name))
  else match _ : d.find? name with
    | none => .ok (s.push name)
    | some deps => do
      let s' ← deps.foldlM (fun s dep => extend d (path ++ [name]) dep s) s
      return s'.push name
termination_by d.offPath path
decreasing_by exact offPath_concat_lt ‹_› ‹_›

/-- Appends to the plan what a package needs and the plan lacks. -/
def planInto (d : Depends) (s : Planning) (name : String) : Except ResolverError Planning :=
  d.extend [] name s

def planAll (d : Depends) (s : Planning) (names : List String) :
    Except ResolverError Planning :=
  names.foldlM d.planInto s

end Depends

end OrderedBuild
