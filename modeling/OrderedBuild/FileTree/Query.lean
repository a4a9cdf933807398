import OrderedBuild.FileTree.Basic
import OrderedBuild.Test.Discovery

namespace OrderedBuild.FileTree

/-- What a path leads to, links followed. -/
def find (t : FileTree) (here : Location) (path : String) : Except OsError (Location × FileNode) := do
  match ← t.locate true here path with
  | ⟨l, some n⟩ => return (l, n)
  | ⟨_, none⟩ => .error .notFound

def pathExists (t : FileTree) (here : Location) (path : String) : Bool :=
  (t.find here path).isOk

def isDirectory (t : FileTree) (here : Location) (path : String) : Bool :=
  match t.find here path with
  | .ok (_, n) => n.isDirectory
  | .error _ => false

def isFile (t : FileTree) (here : Location) (path : String) : Bool :=
  match t.find here path with
  | .ok (_, n) => n.isRegular
  | .error _ => false

def isExecutable (t : FileTree) (here : Location) (path : String) : Bool :=
  match t.find here path with
  | .ok (_, .file _ executable) => executable
  | .ok (_, .program _) => true
  | _ => false

/-- The absolute path without links, dots and repeated separators. -/
def canonical (t : FileTree) (here : Location) (path : String) : Except OsError String :=
  (t.find here path).map fun p => pathOf p.1

def programBytes : ByteArray :=
  ⟨#[0x7F, 0x45, 0x4C, 0x46]⟩

def read (t : FileTree) (here : Location) (path : String) : Except OsError ByteArray := do
  match ← t.find here path with
  | (_, .file content _) => return content
  | (_, .locked) | (_, .closed) => .error .permissionDenied
  | (_, .program _) => return programBytes
  | (_, .sink) => return .empty
  | (_, _) => .error .isADirectory

def entryOf : String × FileNode → DirEntry
  | (name, .directory) | (name, .closed) => ⟨name, .directory⟩
  | (name, .link _) => ⟨name, .link⟩
  | (name, .sink) => ⟨name, .other⟩
  | (name, _) => ⟨name, .file⟩

/-- The entries of a directory; a file has none. -/
def entries (t : FileTree) (here : Location) (path : String) : Except OsError (List DirEntry) := do
  match ← t.find here path with
  | (l, .directory) => return (t.children l).map entryOf
  | (_, .closed) => .error .permissionDenied
  | _ => return []

end OrderedBuild.FileTree
