import OrderedBuild.Package.Order

namespace OrderedBuild

structure DependencyTable where
  depends : Depends
  defaultOrder : List String

namespace DependencyTable

/-- The first package that declares a prerequisite unknown to the map, with that prerequisite. -/
def undeclared? (d : Depends) : Option (String × String) :=
  d.entries.findSome? fun e => (e.2.find? (!d.contains ·)).map (e.1, ·)

/-- Whether a name occurs in an order for the first time before an index. -/
def occursBefore (order : List String) (index : Nat) (name : String) : Bool :=
  (order.idxOf? name).any (· < index)

/-- Checks the rest of an order from an index on; a name seen before is not checked again. -/
def checkFrom (d : Depends) (order seen : List String) (index : Nat) :
    List String → Except ResolverError Unit
  | [] => .ok ()
  | name :: rest =>
    match d.find? name with
    | none => .error (.unknownPackage name)
    | some deps =>
      if name ∈ seen then checkFrom d order seen (index + 1) rest
      else match deps.find? (!occursBefore order index ·) with
        | some dep => .error (.unsafeOrder name dep)
        | none => checkFrom d order (seen.insert name) (index + 1) rest

def checkOrder (d : Depends) (order : List String) : Except ResolverError Unit :=
  checkFrom d order [] 0 order

/-- Without an order of its own the table takes the topological one. -/
def ofDepends (d : Depends) (order : Option (List String)) :
    Except ResolverError DependencyTable :=
  match undeclared? d with
  | some (package, dependency) => .error (.missingDependency package dependency)
  | none => do
    let topological ← d.topologicalOrder
    match order with
    | none => return ⟨d, topological⟩
    | some order => do
      checkOrder d order
      return ⟨d, order⟩

def casacore : DependencyTable where
  depends := Depends.ofList [
    ("casa", []),
    ("tables", ["casa"]),
    ("mirlib", ["casa"]),
    ("scimath", ["casa"]),
    ("measures", ["tables", "scimath"]),
    ("fits", ["measures"]),
    ("coordinates", ["fits"]),
    ("components", ["coordinates"]),
    ("lattices", ["tables", "scimath"]),
    ("ms", ["measures"]),
    ("images", ["components", "mirlib"]),
    ("msfits", ["ms", "fits"]),
    ("msvis", ["ms"])]
  defaultOrder := ["casa", "tables", "mirlib", "scimath", "measures", "fits", "lattices",
    "coordinates", "components", "images", "ms", "msvis", "msfits"]

def names (t : DependencyTable) : List String :=
  t.depends.names

def contains (t : DependencyTable) (name : String) : Bool :=
  t.depends.contains name

end DependencyTable

end OrderedBuild
