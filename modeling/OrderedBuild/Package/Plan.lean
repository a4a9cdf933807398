import OrderedBuild.Package.Planning
import OrderedBuild.Package.Table

namespace OrderedBuild

inductive BuildRequest where
  /-- Every package, in the default order. -/
  | all
  /-- The named packages and their prerequisites, in the order asked for. -/
  | packages (names : List String)
deriving DecidableEq, Repr

structure BuildPlan where
  packages : List String
deriving DecidableEq, Repr

namespace BuildPlan

/-- The default order is safe as it stands, so nothing is resolved. -/
def all (t : DependencyTable) : BuildPlan :=
  ⟨t.defaultOrder.eraseDups⟩

def forPackages (d : Depends) (names : List String) : Except ResolverError BuildPlan :=
  (d.planAll .empty names).map fun s => ⟨s.plan⟩

def ofRequest (t : DependencyTable) : BuildRequest → Except ResolverError BuildPlan
  | .all => .ok (all t)
  | .packages names => forPackages t.depends names

def position? (p : BuildPlan) (name : String) : Option Nat :=
  p.packages.idxOf? name

end BuildPlan

end OrderedBuild
