import OrderedBuild.Program

namespace OrderedBuild.Command

def consulted : List String :=
  ["PATH", "HOME", "XDG_CONFIG_HOME", "LD_LIBRARY_PATH", UserDirs.configDirVariable,
    Options.configVariable, Options.backendVariable, Options.harnessVariable,
    Program.levelVariable]

def currentEnv : IO Env := do
  let values ← consulted.mapM fun name => return (name, ← IO.getEnv name)
  return values.filterMap fun v => v.2.map (v.1, ·)

def addFile (t : FileTree) (path : String) (put : FileTree → Except OsError FileTree) : FileTree :=
  let t := match Path.parent? path with
    | some above => (t.makeDirs [] above).1
    | none => t
  match put t with
  | .ok t => t
  | .error _ => t

/-- Keeps a directory closed, which is made if it is not there. -/
def addClosed (t : FileTree) (path : String) : FileTree :=
  let t := (t.makeDirs [] path).1
  match t.close [] path with
  | .ok t => t
  | .error _ => t

def resolves (path : String) : IO Bool := do
  try
    discard (IO.FS.realPath path)
    return true
  catch _ => return false

/-- Puts in what keeps a path from being read: the last directory on it that can be told to be
there may not be searched, or the file it leads to may not be read. -/
def bringRefused (t : FileTree) (file : String) : Nat → String → IO FileTree
  | 0, _ => return t
  | fuel + 1, path => do
    if ← resolves path then
      try
        discard (IO.FS.realPath (path ++ "/."))
        return (t.makeDirs [] path).1
      catch
        | .permissionDenied .. => return addClosed t path
        | _ => return addFile t file (·.lock [] file)
    else match Path.parent? path with
      | some above => bringRefused t file fuel above
      | none => return t

/-- Puts a file or directory of the machine into a tree; what is not there is left out. -/
def bringIn (t : FileTree) (path : String) : IO FileTree := do
  try
    let content ← IO.FS.readBinFile path
    return addFile t path (·.write [] path content true)
  catch
    | .inappropriateType .. => return (t.makeDirs [] path).1
    | .permissionDenied .. => bringRefused t path (path.length + 1) path
    | _ => return t

def settingsPaths (here : String) (s : Surroundings) (o : Options) : List String :=
  let directory := Path.join here (o.directory.getD "")
  [directory, Path.join directory Settings.projectFileName, s.dirs.userConfig] ++
    (o.config.map (Path.join here)).toList

def sessionPaths (m : Machine) (s : Session) (o : Options) : List String :=
  s.plan.packages.map (Path.join s.sourceRoot) ++
    m.candidates (o.backend.getD s.settings.backend) ++
    m.candidates (o.harness.getD s.settings.harness)

/-- The machine with what a run on these words may need. -/
def gather (m : Machine) (accountHome : String) (words : List String) : IO Machine := do
  match Options.parse m.env words with
  | .error _ => return m
  | .ok o =>
    let here := FileTree.pathOf m.here
    let before := Program.surroundings m accountHome 1
    let m := { m with tree := ← (settingsPaths here before o).foldlM bringIn m.tree }
    match ((Session.prepare (Program.surroundings m accountHome 1) o).run.run []).1 with
    | .error _ => return m
    | .ok s => return { m with tree := ← (sessionPaths m s o).foldlM bringIn m.tree }

def putBack (before after : FileTree) : IO Unit := do
  for (l, node) in after.nodes do
    if (before.node? l).isNone then
      match node with
      | .directory => IO.FS.createDirAll (FileTree.pathOf l)
      | .file content _ => IO.FS.writeBinFile (FileTree.pathOf l) content
      | _ => pure ()

def tell : Message → IO Unit
  | .out bytes => do (← IO.getStdout).write bytes
  | .err bytes => do (← IO.getStderr).write bytes
  | .log _ _ => pure ()

end OrderedBuild.Command

open OrderedBuild in
def main (words : List String) : IO UInt32 := do
  let env ← Command.currentEnv
  let accountHome := "/"
  let cwd := toString (← IO.currentDir)
  let here := (Text.splitOn '/' cwd).filter (· ≠ "")
  let tree := (Machine.systemTree.makeDirs [] cwd).1
  let m ← Command.gather ⟨tree, here, env⟩ accountHome words
  let outcome := Program.run m accountHome 1 words
  outcome.said.forM Command.tell
  Command.putBack m.tree outcome.tree
  return UInt32.ofNat outcome.code
