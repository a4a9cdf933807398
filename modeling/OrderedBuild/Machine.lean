import OrderedBuild.FileTree.Access
import OrderedBuild.Run.Tools
import OrderedBuild.SearchPath
import OrderedBuild.Shell.Run

namespace OrderedBuild

structure Machine where
  tree : FileTree
  /-- The working directory. -/
  here : Location
  env : Env

/-- A tool by the name it was asked for, and where it was found. -/
structure Tool where
  name : String
  path : String
deriving DecidableEq, Repr

/-- How a program ended, or why it did not start; what it wrote, and the tree it left. -/
structure Finished where
  ending : Except OsError Shell.Ending
  said : List Message
  tree : FileTree

/-- What programs do: the one at a path, started with arguments in a directory. -/
abbrev Programs := String → List String → Location → Env → FileTree → Finished

namespace Machine

def systemTree : FileTree where
  nodes :=
    [(["usr"], .directory), (["usr", "bin"], .directory), (["usr", "local"], .directory),
      (["usr", "local", "bin"], .directory), (["bin"], .link "usr/bin"), (["etc"], .directory),
      (["opt"], .directory), (["tmp"], .directory), (["dev"], .directory),
      (["dev", "null"], .sink)] ++
    Shell.Utility.names.map fun n => (["usr", "bin", n], .program n)

/-- The names of a path; a dot counts only in first place. -/
def components (path : String) : List String :=
  match Text.splitOn '/' path with
  | [] => []
  | first :: rest =>
    (if first = "" then (if Path.isAbsolute path then ["/"] else []) else [first]) ++
      rest.filter fun n => n ≠ "" && n ≠ "."

def canStart (m : Machine) (path : String) : Bool :=
  m.tree.isFile m.here path && m.tree.isExecutable m.here path

/-- A name of one component is looked up on the search path, any other from the working
directory. -/
def candidates (m : Machine) (name : String) : List String :=
  let parts := components name
  if parts.length ≤ 1 then
    match m.env.get? "PATH" with
    | none => []
    | some path => (SearchPath.split path).map (Path.join · name)
  else if Path.isAbsolute name then [name]
  else [parts.foldl Path.join (FileTree.pathOf m.here)]

def locate? (m : Machine) (name : String) : Option Tool :=
  ((m.candidates name).find? m.canStart).map (Tool.mk name)

def searchNote (name : String) (found : Option Tool) : Message :=
  match found with
  | some t => .log .debug ("Found " ++ name ++ " at " ++ t.path)
  | none => .log .debug (name ++ " not found: cannot find binary path")

def firstProcess : Nat := 4000

/-- Shell scripts, and the few programs of the system that they need. A program has nothing to
read. -/
def scripts : Programs := fun path args here env tree =>
  let p : Shell.Process := {
    here, env, descriptors := [(0, .sink), (1, .out), (2, .err)]
    name := path, args, id := firstProcess }
  let (ending, w) := Shell.spawn Shell.steps p path (Shell.World.ofTree tree)
  ⟨ending, w.said.reverse, w.tree⟩

def start (m : Machine) (tool : Tool) (args : List String) (dir : String) (env : Env)
    (programs : Programs) : Finished :=
  match m.tree.find m.here dir with
  | .error e => ⟨.error e, [], m.tree⟩
  | .ok (l, .directory) => programs tool.path args l env m.tree
  | .ok (_, .closed) => ⟨.error .permissionDenied, [], m.tree⟩
  | .ok _ => ⟨.error .notADirectory, [], m.tree⟩

/-- A tool that was interrupted, or that failed after the run was cancelled, was interrupted. -/
def statusOf (cancelled : Bool) : Shell.Ending → BackendStatus
  | .exited 0 => .success
  | .exited n => if cancelled then .interrupted else .failed n
  | .killed signal =>
    if signal = Shell.Signal.interrupt || cancelled then .interrupted else .failed 1

def build (m : Machine) (tool : Tool) (cancelled : Bool) (package dir : String)
    (args : List String) (programs : Programs := scripts) :
    Answer Machine (Except BuildError BackendStatus) :=
  if !m.tree.isDirectory m.here dir then ⟨.error (.packageDirNotFound dir), false, [], m⟩
  else
    let f := m.start tool args dir m.env programs
    let note := Message.log .debug ("Running " ++ tool.name ++ " " ++ " ".intercalate args ++
      " in " ++ dir)
    let value := match f.ending with
      | .ok ending => .ok (statusOf cancelled ending)
      | .error e => .error (.spawn tool.name package e.message)
    ⟨value, false, note :: f.said, { m with tree := f.tree }⟩

def outBytes : Message → ByteArray
  | .out bytes => bytes
  | _ => .empty

def errBytes : Message → ByteArray
  | .err bytes => bytes
  | _ => .empty

def joined (parts : List ByteArray) : String :=
  Text.ofBytesLossy (parts.foldl (· ++ ·) .empty)

def test (m : Machine) (tool : Tool) (executable : String) (env : Env)
    (programs : Programs := scripts) : Answer Machine (Except TestError TestOutput) :=
  let name := (Path.fileName? executable).getD ""
  let f := m.start tool ["./" ++ name] ((Path.parent? executable).getD ".")
    (m.env.override env) programs
  let value := match f.ending with
    | .ok _ => .ok ⟨joined (f.said.map outBytes), joined (f.said.map errBytes)⟩
    | .error e => .error (.spawn tool.name name e.message)
  ⟨value, false, [], { m with tree := f.tree }⟩

def tools (backend : Tool) (harness : Option Tool) (programs : Programs) : Tools Machine where
  build package dir args m := m.build backend false package dir args programs
  test executable env m :=
    match harness with
    | some tool => m.test tool executable env programs
    | none => ⟨.error (.unavailable executable), false, [], m⟩
  isDirectory path m := m.tree.isDirectory m.here path
  entries path m := m.tree.testEntries m.here path

end Machine

end OrderedBuild
