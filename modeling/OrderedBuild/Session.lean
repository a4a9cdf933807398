import OrderedBuild.CommandLine
import OrderedBuild.FileTree.Access
import OrderedBuild.Settings.Discovery
import OrderedBuild.Text.Quoted

namespace OrderedBuild

structure Surroundings where
  tree : FileTree
  /-- The working directory. -/
  here : Location
  dirs : UserDirs
  processors : Nat

structure Session where
  sourceRoot : String
  settings : Settings
  table : DependencyTable
  config : BuildConfig
  plan : BuildPlan

/-- Steps that write notes, and may fail; the notes written before a failure stay. -/
abbrev Noting := ExceptT Failure (StateM (List Message))

def note (level : Level) (text : String) : Noting Unit :=
  modify (· ++ [.log level text])

namespace Session

def findSourceRoot (s : Surroundings) (directory : Option String) :
    Except FilesystemError String :=
  let cwd := FileTree.pathOf s.here
  match directory with
  | none => .ok cwd
  | some d => s.tree.resolvePath s.here (Path.join cwd d)

def loadSettings (s : Surroundings) (sourceRoot : String) (asked : Option String) :
    Noting Settings := do
  let file ← (Settings.decidingFile s.tree s.here sourceRoot asked s.dirs).mapError Failure.settings
  match file with
  | .project path => note .debug ("Using settings from " ++ path)
  | _ => pure ()
  (Settings.load s.tree s.here file.path).mapError Failure.settings

/-- No jobs means one for each processor. -/
def effectiveJobs (processors jobs : Nat) : Nat :=
  if jobs = 0 then processors else jobs

def configure (s : Surroundings) (settings : Settings) (sourceRoot : String)
    (table : DependencyTable) (o : Options) : Noting BuildConfig := do
  if BuildConfig.ignoresLocations table o.args then
    note .info "Ignoring prefix/casacoredir for a staged build"
  let config := BuildConfig.ofWords table (settings.installDefaults sourceRoot) o.args
  match o.jobs.or settings.build.jobs with
  | none => return config
  | some jobs => return config.withJobs (effectiveJobs s.processors jobs)

def prepare (s : Surroundings) (o : Options) : Noting Session := do
  let sourceRoot ← (findSourceRoot s o.directory).mapError Failure.filesystem
  let settings ← loadSettings s sourceRoot o.config
  let table ← settings.dependencyTable.mapError Failure.resolver
  let config ← configure s settings sourceRoot table o
  let plan ← (BuildPlan.ofRequest table config.request).mapError Failure.resolver
  note .debug ("Build plan: " ++ Text.quotedList plan.packages)
  return { sourceRoot, settings, table, config, plan }

def dryRunLines (s : Session) : List String :=
  ["Source root: " ++ s.sourceRoot,
    "Build plan (" ++ toString s.plan.packages.length ++ " packages):"] ++
  s.plan.packages.mapIdx (fun i p => "  " ++ toString (i + 1) ++ ". " ++ p) ++
  ["Backend arguments: " ++ " ".intercalate s.config.backendArgs] ++
  (s.config.testPrefix?.map ("Tests: against " ++ ·)).toList

def dryRunText (s : Session) : String :=
  String.join (s.dryRunLines.map (· ++ "\n"))

def dryRunJson (s : Session) : Json :=
  .obj ([("source_root", .str s.sourceRoot), ("packages", Json.strings s.plan.packages),
      ("args", Json.strings s.config.backendArgs)] ++
    (s.config.install.stageDir?.map fun d => ("stage_dir", Json.str d)).toList ++
    (s.config.testPrefix?.map fun d => ("test_prefix", Json.str d)).toList)

end Session

end OrderedBuild
