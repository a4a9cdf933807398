import OrderedBuild.BuildConfig
import OrderedBuild.Run.Tests

namespace OrderedBuild

structure ToolSettings where
  backend : Option String := none
  harness : Option String := none
deriving DecidableEq, Repr

structure BuildSettings where
  stageDir : Option String := none
  systemPrefix : Option String := none
  jobs : Option Nat := none
deriving DecidableEq, Repr

structure TestSettings where
  directory : Option String := none
  executableStart : Option String := none
  passMarkers : Option (List String) := none
  dataVariable : Option String := none
deriving DecidableEq, Repr

structure PackageSettings where
  order : Option (List String) := none
  depends : List (String × List String) := []
deriving DecidableEq, Repr

structure Settings where
  tools : ToolSettings := {}
  build : BuildSettings := {}
  tests : TestSettings := {}
  packages : Option PackageSettings := none
deriving DecidableEq, Repr

namespace Settings

def backend (s : Settings) : String :=
  s.tools.backend.getD "scons"

def harness (s : Settings) : String :=
  s.tools.harness.getD "casacore_assay"

def testsDir (s : Settings) : String :=
  s.tests.directory.getD "tests"

/-- The staging directory lies under the source root unless its path is absolute. -/
def installDefaults (s : Settings) (sourceRoot : String) : InstallDefaults where
  stageDir := Path.join sourceRoot (s.build.stageDir.getD "stage")
  systemPrefix := s.build.systemPrefix.getD "/usr"

def testTrigger (s : Settings) (installPrefix : String) : TestTrigger where
  installPrefix
  executableStart := s.tests.executableStart.getD "t"
  passMarkers := s.tests.passMarkers.getD ["PASS", "OK"]
  dataVariable := s.tests.dataVariable.getD "AIPSPATH"

def dependencyTable (s : Settings) : Except ResolverError DependencyTable :=
  match s.packages with
  | none => .ok .casacore
  | some p => DependencyTable.ofDepends (Depends.ofList p.depends) p.order

end Settings

end OrderedBuild
