import OrderedBuild.Package.Plan
import OrderedBuild.Run.Summary
import OrderedBuild.Run.Tests
import OrderedBuild.Text.Quoted

namespace OrderedBuild

/-- What is the same for every package of a run. -/
structure BuildJob where
  context : ExecutionContext
  args : List String
  /-- Present when tests run after each build. -/
  tests : Option TestTrigger

namespace BuildJob

variable {σ : Type}

/-- Tests a package that has been built. A report is kept; a test directory that cannot be run is
only mentioned. -/
def testPackage (j : BuildJob) (tools : Tools σ) (package : String) (s : RunState σ) :
    Stretch σ (Option TestReport) :=
  match j.tests with
  | none => ⟨[], none, s⟩
  | some g =>
    let t := g.run tools j.context package s
    let opening := Event.log .info ("Testing package: " ++ package)
    match t.result with
    | .ok report => ⟨opening :: t.events ++ [.testsFinished report], some report, t.state⟩
    | .error e =>
      ⟨opening :: t.events ++
        [.log .warn ("Could not run tests for " ++ package ++ ": " ++ e.message)], none, t.state⟩

def opening (j : BuildJob) (index total : Nat) (package : String) : List Event :=
  [.started index total package,
    .log .info ("Building package: " ++ package),
    .log .debug ("Backend arguments for " ++ package ++ ": " ++ Text.quotedList j.args)]

/-- Builds the packages from position `index` of the plan on. -/
def runFrom (j : BuildJob) (tools : Tools σ) (total : Nat) :
    Nat → List String → BuildSummary → RunState σ → Stretch σ (Except BuildError BuildSummary)
  | _, [], done, s => ⟨[], .ok done, s⟩
  | index, package :: rest, done, s =>
    if s.cancelled then ⟨[], .error (.interrupted package), s⟩
    else
      let dir := j.context.packageDir package
      let a := tools.build package dir j.args s.world
      let s' := a.leave s
      let events := j.opening index total package ++ .build package dir j.args ::
        a.said.map .said
      match a.value with
      | .error e => ⟨events, .error e, s'⟩
      | .ok .interrupted => ⟨events, .error (.interrupted package), s'⟩
      | .ok (.failed status) =>
        ⟨events ++ [.log .error ("Build failed for " ++ package ++ " with status " ++
          toString status)], .error (.buildFailed package status), s'⟩
      | .ok .success =>
        let t := j.testPackage tools package s'
        let done' := ⟨done.built ++ [package], done.tests ++ t.result.toList⟩
        let events' := events ++ .built package :: t.events
        if j.tests.isSome && t.state.cancelled then
          ⟨events', .error (.interrupted package), t.state⟩
        else
          let r := runFrom j tools total (index + 1) rest done' t.state
          ⟨events' ++ r.events, r.result, r.state⟩

def run (j : BuildJob) (tools : Tools σ) (plan : BuildPlan) (s : RunState σ) :
    Stretch σ (Except BuildError BuildSummary) :=
  j.runFrom tools plan.packages.length 0 plan.packages .empty s

end BuildJob

end OrderedBuild
