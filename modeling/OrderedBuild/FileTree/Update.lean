import OrderedBuild.FileTree.Query

namespace OrderedBuild.FileTree

/-- A path without the separators at its end. -/
def withoutFinalSlashes (path : String) : String :=
  let r := path.toList.reverse.dropWhile (· = '/')
  if r.isEmpty && Path.isAbsolute path then "/" else String.ofList r.reverse

def makeDir (t : FileTree) (here : Location) (path : String) : Except OsError FileTree := do
  match ← t.locate false here (withoutFinalSlashes path) with
  | ⟨_, some _⟩ => .error .alreadyExists
  | ⟨l, none⟩ => return t.put l .directory

/-- Makes a directory and the directories above it. What was made stays even if the rest fails. -/
def makeDirsUpTo (here : Location) : Nat → FileTree → String → FileTree × Option OsError
  | fuel, t, path =>
    if path = "" then (t, none)
    else match t.makeDir here path with
      | .ok t => (t, none)
      | .error .notFound =>
        match fuel, Path.parent? path with
        | fuel + 1, some above =>
          match makeDirsUpTo here fuel t above with
          | (t, some e) => (t, some e)
          | (t, none) =>
            match t.makeDir here path with
            | .ok t => (t, none)
            | .error e => if t.isDirectory here path then (t, none) else (t, some e)
        | _, _ => (t, some .notFound)
      | .error e => if t.isDirectory here path then (t, none) else (t, some e)

def makeDirs (t : FileTree) (here : Location) (path : String) : FileTree × Option OsError :=
  makeDirsUpTo here path.length t path

/-- Writes a file through links; a new file gets the given mode, an old one keeps its own. -/
def write (t : FileTree) (here : Location) (path : String) (content : ByteArray)
    (executable : Bool) : Except OsError FileTree := do
  match ← t.locate true here path with
  | ⟨l, none⟩ => return t.put l (.file content executable)
  | ⟨l, some (.file _ mode)⟩ => return t.put l (.file content mode)
  | ⟨_, some .sink⟩ => return t
  | ⟨_, some .directory⟩ | ⟨_, some .closed⟩ => .error .isADirectory
  | ⟨_, some _⟩ => .error .permissionDenied

def append (t : FileTree) (here : Location) (path : String) (content : ByteArray) :
    Except OsError FileTree := do
  match ← t.locate true here path with
  | ⟨l, none⟩ => return t.put l (.file content false)
  | ⟨l, some (.file old mode)⟩ => return t.put l (.file (old ++ content) mode)
  | ⟨_, some .sink⟩ => return t
  | ⟨_, some .directory⟩ | ⟨_, some .closed⟩ => .error .isADirectory
  | ⟨_, some _⟩ => .error .permissionDenied

def lock (t : FileTree) (here : Location) (path : String) : Except OsError FileTree := do
  match ← t.locate true here path with
  | ⟨l, none⟩ => return t.put l .locked
  | ⟨_, some _⟩ => .error .alreadyExists

/-- Keeps everyone out of a directory. -/
def close (t : FileTree) (here : Location) (path : String) : Except OsError FileTree := do
  match ← t.find here path with
  | (l, .directory) => return t.put l .closed
  | _ => .error .notADirectory

def makeLink (t : FileTree) (here : Location) (path target : String) :
    Except OsError FileTree := do
  match ← t.locate false here path with
  | ⟨l, none⟩ => return t.put l (.link target)
  | ⟨_, some _⟩ => .error .alreadyExists

end OrderedBuild.FileTree
