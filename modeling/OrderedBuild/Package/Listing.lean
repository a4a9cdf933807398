import OrderedBuild.Json.Basic
import OrderedBuild.Package.Table

namespace OrderedBuild

structure PackageEntry where
  name : String
  depends : List String
deriving DecidableEq, Repr

namespace DependencyTable

/-- Packages in the default order, then the packages that the order leaves out, by name. -/
def listEntries (t : DependencyTable) : List PackageEntry :=
  (t.defaultOrder ++ t.names.filter (· ∉ t.defaultOrder)).map fun name =>
    ⟨name, (t.depends.find? name).getD []⟩

def padTo (width : Nat) (s : String) : String :=
  s ++ String.ofList (List.replicate (width - s.length) ' ')

/-- The column is as wide as the longest name has bytes. -/
def nameColumn (es : List PackageEntry) : Nat :=
  es.foldl (fun w e => max w e.name.utf8ByteSize) 0

def listLine (width : Nat) (e : PackageEntry) : String :=
  if e.depends.isEmpty then e.name
  else padTo width e.name ++ "  <- " ++ ", ".intercalate e.depends

def listText (t : DependencyTable) : String :=
  String.join (t.listEntries.map fun e => listLine (nameColumn t.listEntries) e ++ "\n")

def listJson (t : DependencyTable) : Json :=
  .arr (t.listEntries.map fun e =>
    .obj [("name", .str e.name), ("depends", Json.strings e.depends)])

def toJson (t : DependencyTable) : Json :=
  .obj [("depends", .obj (t.depends.entries.map fun e => (e.1, Json.strings e.2))),
    ("default_order", Json.strings t.defaultOrder)]

end DependencyTable

end OrderedBuild
