import OrderedBuild.Package.Closure

namespace OrderedBuild

/-- How far a walk over the whole map has come: the packages left behind and those under way, as
sets and in the order they were left and entered. -/
structure Visits where
  visited : List String
  underway : List String
  order : List String
  path : List String
deriving DecidableEq, Repr

namespace Visits

def empty : Visits :=
  ⟨[], [], [], []⟩

def enter (v : Visits) (name : String) : Visits :=
  { v with underway := v.underway.insert name, path := v.path ++ [name] }

def leave (v : Visits) (name : String) : Visits :=
  ⟨v.visited.insert name, v.underway.erase name, v.order ++ [name], v.path.dropLast⟩

/-- The path from where a package was entered, and the package again. -/
def cycle (v : Visits) (name : String) : List String :=
  v.path.drop ((v.path.idxOf? name).getD 0) ++ [name]

/-- A later state in which the same packages are under way. -/
abbrev After (v : Visits) := { v' : Visits // v'.underway = v.underway }

theorem underway_leave {v v' : Visits} {name : String}
    (h : v'.underway = (v.enter name).underway) (hn : name ∉ v.underway) :
    (v'.leave name).underway = v.underway := by
  simp [leave, h, enter, hn]

end Visits

namespace Depends

/-- Puts a package after its prerequisites at the end of those already ordered. -/
def visit (d : Depends) (name : String) (v : Visits) : Except ResolverError v.After :=
  if hn : name ∈ v.underway then .error (.circularDependency (v.cycle name))
  else if name ∈ v.visited then .ok ⟨v, rfl⟩
  else match _ : d.find? name with
    | none => .ok ⟨(v.enter name).leave name, Visits.underway_leave rfl hn⟩
    | some deps => do
      let v' ← deps.foldlM (fun (v' : (v.enter name).After) dep => do
        let v'' ← visit d dep v'.1
        return ⟨v''.1, v''.2.trans v'.2⟩) ⟨v.enter name, rfl⟩
      return ⟨v'.1.leave name, Visits.underway_leave v'.2 hn⟩
termination_by d.offPath v.underway
decreasing_by
  rw [v'.2]
  exact offPath_lt ‹_› hn fun p => by simp [Visits.enter]

/-- Packages are visited in the order of their names. -/
def topologicalOrder (d : Depends) : Except ResolverError (List String) := do
  let v ← d.names.foldlM (fun v name =>
    if name ∈ v.visited then .ok v else (d.visit name v).map Subtype.val) Visits.empty
  return v.order

end Depends

end OrderedBuild
