import OrderedBuild.Error
import OrderedBuild.FileTree.Update

namespace OrderedBuild.FileTree

def resolvePath (t : FileTree) (here : Location) (path : String) :
    Except FilesystemError String :=
  match t.canonical here path with
  | .ok p => .ok p
  | .error e => .error (.canonicalize path e.message)

/-- Makes a directory unless there is one, and resolves its path. -/
def ensureDir (t : FileTree) (here : Location) (path : String) :
    FileTree × Except FilesystemError String :=
  if t.isDirectory here path then (t, t.resolvePath here path)
  else match t.makeDirs here path with
    | (t, some e) => (t, .error (.createDir path e.message))
    | (t, none) => (t, t.resolvePath here path)

def testEntries (t : FileTree) (here : Location) (path : String) :
    Except TestError (List DirEntry) :=
  match t.entries here path with
  | .ok es => .ok es
  | .error e => .error (.readDir path ("IO error for operation on " ++ path ++ ": " ++ e.message))

end OrderedBuild.FileTree
