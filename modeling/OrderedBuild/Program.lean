import OrderedBuild.Machine
import OrderedBuild.Package.Listing
import OrderedBuild.Run.Build
import OrderedBuild.Session

namespace OrderedBuild

structure Outcome where
  code : Nat
  said : List Message
  tree : FileTree

namespace Program

def nameAndVersion : String := "casabuild 0.1.0"

def usage : String := "Usage: casabuild [OPTIONS] [ARGS]..."

def line (text : String) : Message :=
  .out (text ++ "\n").toUTF8

def errorLine (text : String) : Message :=
  .err (text ++ "\n").toUTF8

inductive Trouble where
  | preparation (f : Failure)
  | staging (e : FilesystemError)
  | build (e : BuildError)
deriving DecidableEq, Repr

namespace Trouble

def code : Trouble → Int
  | .preparation f => f.exitCode
  | .staging _ => 1
  | .build e => e.exitCode

def lines : Trouble → List String
  | .preparation f =>
    [BuildSummary.errorMark ++ " Error: " ++ f.message, "  Caused by: " ++ f.detail]
  | .staging e =>
    [BuildSummary.errorMark ++ " Error: Failed to prepare staging directory",
      "  Caused by: " ++ e.message]
  | .build e =>
    if e.isInterrupted then [BuildSummary.warningMark ++ " " ++ e.message]
    else [BuildSummary.errorMark ++ " Error: " ++ e.message]

end Trouble

structure Progress where
  said : List Message
  machine : Machine

abbrev Work := ExceptT Trouble (StateM Progress)

def say (messages : List Message) : Work Unit :=
  modify fun p => { p with said := p.said ++ messages }

def log (level : Level) (text : String) : Work Unit :=
  say [.log level text]

def prepare (s : Surroundings) (o : Options) : Work Session := do
  let (r, notes) := (Session.prepare s o).run.run []
  say notes
  r.mapError Trouble.preparation

def ensureStage (dir : String) : Work Unit := do
  let m := (← get).machine
  if !m.tree.isDirectory m.here dir then log .info ("Creating staging directory " ++ dir)
  let (t, r) := m.tree.ensureDir m.here dir
  modify fun p => { p with machine := { p.machine with tree := t } }
  discard (r.mapError Trouble.staging)

def locateBackend (name : String) : Work Tool := do
  let found := (← get).machine.locate? name
  say [Machine.searchNote name found]
  match found with
  | some tool => return tool
  | none => throw (.build (.toolNotFound name))

/-- The harness and what triggers tests. Tests that cannot be run are skipped with a warning. -/
def selectTests (s : Session) (asked : Option String) : Work (Option Tool × Option TestTrigger) := do
  if !s.config.tests then return (none, none)
  match s.config.testPrefix? with
  | none =>
    log .warn "Tests requested but no install prefix is known; skipping tests"
    return (none, none)
  | some location =>
    let name := asked.getD s.settings.harness
    let found := (← get).machine.locate? name
    say [Machine.searchNote name found]
    match found with
    | some tool => return (some tool, some (s.settings.testTrigger location))
    | none =>
      log .warn ("Test harness '" ++ name ++ "' not found; skipping tests")
      return (none, none)

def spoken : Event → Option Message
  | .said m => some m
  | _ => none

def build (s : Session) (o : Options) (programs : Programs) : Work Unit := do
  match s.config.install.stageDir? with
  | some dir => ensureStage dir
  | none => pure ()
  let backend ← locateBackend (o.backend.getD s.settings.backend)
  let (harness, trigger) ← selectTests s o.harness
  let m := (← get).machine
  let context := { ExecutionContext.ofEnv s.sourceRoot m.env with testsDir := s.settings.testsDir }
  log .info ("Building " ++ toString s.plan.packages.length ++ " packages from " ++ s.sourceRoot)
  let job : BuildJob := ⟨context, s.config.backendArgs, trigger⟩
  let run := job.run (Machine.tools backend harness programs) s.plan ⟨m, false⟩
  modify fun p => ⟨p.said ++ run.events.filterMap spoken, run.state.world⟩
  let summary ← run.result.mapError Trouble.build
  if o.json then say [line summary.toJson.pretty]
  else if !o.quiet then say (summary.lines.map line)

def work (s : Surroundings) (o : Options) (programs : Programs) : Work Unit := do
  let session ← prepare s o
  if o.list then
    say (if o.json then [line session.table.listJson.pretty]
      else [.out session.table.listText.toUTF8])
  else if o.dryRun then
    say (if o.json then [line session.dryRunJson.pretty] else [.out session.dryRunText.toUTF8])
  else build session o programs

def levelVariable : String := "RUST_LOG"

def levelOf? (name : String) : Option Nat :=
  match Text.lowerAscii name with
  | "" => some 1
  | "off" => some 0
  | "error" => some 1
  | "warn" => some 2
  | "info" => some 3
  | "debug" => some 4
  | "trace" => some 5
  | "0" => some 0
  | "1" => some 1
  | "2" => some 2
  | "3" => some 3
  | "4" => some 4
  | "5" => some 5
  | _ => none

/-- The most detailed level that is shown: the one named in the environment, else the one that the
options ask for. -/
def shownLevel (env : Env) (o : Options) : Nat :=
  ((env.get? levelVariable).bind levelOf?).getD o.outputConfig.level.rank

/-- Log lines that are shown become lines on the error stream. -/
def render (shown : Nat) : Message → Option Message
  | .log level text =>
    if level.rank ≤ shown then some (errorLine (level.word ++ " " ++ text)) else none
  | m => some m

/-- A status that a process can end with. -/
def statusByte (code : Int) : Nat :=
  (code % 256).toNat

def stopLine : Stop → String
  | .repeated => "error: an option is given more than once"
  | .invalidValue => "error: an option lacks a value"
  | .badCount => "error: the number of jobs is not a number"
  | .unexpectedValue => "error: an option takes no value"
  | .help => usage
  | .version => nameAndVersion

def surroundings (m : Machine) (accountHome : String) (processors : Nat) : Surroundings :=
  ⟨m.tree, m.here, UserDirs.ofEnv m.env accountHome, processors⟩

def run (m : Machine) (accountHome : String) (processors : Nat) (words : List String)
    (programs : Programs := Machine.scripts) : Outcome :=
  match Options.parse m.env words with
  | .error stop =>
    let text := stopLine stop
    ⟨stop.exitCode, [if stop.exitCode = 0 then line text else errorLine text], m.tree⟩
  | .ok o =>
    let (r, p) := (work (surroundings m accountHome processors) o programs).run.run ⟨[], m⟩
    let shown := shownLevel m.env o
    let said := p.said.filterMap (render shown)
    match r with
    | .ok () => ⟨0, said, p.machine.tree⟩
    | .error e => ⟨statusByte e.code, said ++ e.lines.map errorLine, p.machine.tree⟩

end Program

end OrderedBuild
