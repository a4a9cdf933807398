import OrderedBuild.Context
import OrderedBuild.Run.Tools

namespace OrderedBuild

structure TestTrigger where
  /-- Where the packages under test are installed. -/
  installPrefix : String
  executableStart : String := "t"
  passMarkers : List String := ["PASS", "OK"]
  dataVariable : String := "AIPSPATH"
deriving DecidableEq, Repr

namespace TestTrigger

variable {σ : Type}

/-- An answer of the harness as a result; a test that could not be run failed. -/
def resultOf (g : TestTrigger) (name : String) : Except TestError TestOutput → TestResult
  | .ok o => ⟨name, classify o.combined g.passMarkers, o.combined⟩
  | .error e => ⟨name, .failed, e.message⟩

def statusWord : TestStatus → String
  | .passed => "Passed"
  | .failed => "Failed"

def notes (answer : Except TestError TestOutput) (r : TestResult) : List Event :=
  (match answer with
    | .ok _ => []
    | .error e => [.log .warn e.message]) ++
  [.log .debug (r.name ++ ": " ++ statusWord r.status)]

/-- Runs the named tests of a directory one after the other until the run is interrupted. -/
def runEach (g : TestTrigger) (tools : Tools σ) (package dir : String) (env : Env) :
    List String → RunState σ → Stretch σ (List TestResult)
  | [], s => ⟨[], [], s⟩
  | name :: names, s =>
    if s.cancelled then
      ⟨[.log .warn ("Tests for " ++ package ++ " interrupted")], [], s⟩
    else
      let executable := Path.join dir name
      let a := tools.test executable env s.world
      let r := g.resultOf name a.value
      let rest := runEach g tools package dir env names (a.leave s)
      ⟨.test executable env :: a.said.map .said ++ notes a.value r ++ rest.events,
        r :: rest.result, rest.state⟩

/-- A package without a test directory has an empty report. -/
def run (g : TestTrigger) (tools : Tools σ) (c : ExecutionContext) (package : String)
    (s : RunState σ) : Stretch σ (Except TestError TestReport) :=
  let dir := c.testDir package
  if !tools.isDirectory dir s.world then
    ⟨[.log .debug ("No test directory for " ++ package ++ " at " ++ dir)], .ok ⟨package, []⟩, s⟩
  else match c.testEnv g.installPrefix dir g.dataVariable with
    | .error e => ⟨[], .error e, s⟩
    | .ok env =>
      match tools.entries dir s.world with
      | .error e => ⟨[], .error e, s⟩
      | .ok entries =>
        let names := testNames g.executableStart entries
        let each := g.runEach tools package dir env names s
        ⟨.log .info ("Running " ++ toString names.length ++ " tests for " ++ package) ::
            each.events,
          .ok ⟨package, each.result⟩, each.state⟩

end TestTrigger

end OrderedBuild
